import ServiceExposure.Net.Address

/-! # Addresses

Composing and taking apart the hosts, ports and paths of exposed services. -/

namespace ServiceExposure.Address

/-! ## Paths -/

/-- The segments after the first, each after a slash. -/
def joinTail : List String → String
  | [] => ""
  | [last] => "/" ++ Text.withoutFirst '/' last
  | inner :: rest => "/" ++ Text.withoutLast '/' (Text.withoutFirst '/' inner) ++ joinTail rest

/-- Joins segments by one slash each, which takes the place of a slash that a segment has on that
side. The outer ends of the first and the last segment stay as they are. -/
def join : List String → String
  | [] => ""
  | [only] => only
  | first :: rest => Text.withoutLast '/' first ++ joinTail rest

/-! ## Hosts and ports -/

/-- Host and port, with brackets around a host that contains colons. -/
def joinHostPort {α : Type} [ToString α] (host : String) (port : α) : String :=
  if host.toList.contains ':' then "[" ++ host ++ "]:" ++ toString port
  else host ++ ":" ++ toString port

/-- Brackets a bare IPv6 address, so that it can be the host of a URL. -/
def bracketed (host : String) : String :=
  if Net.isIpv6 host then "[" ++ host ++ "]" else host

/-- The text after the colon that sets off a port: after a closing bracket, or after the only
colon. -/
def portChars? (host : List Char) : Option (List Char) :=
  match host with
  | '[' :: rest => (Text.cutChars? "]:".toList rest).map (·.2)
  | _ =>
    match Text.cutLastChars? ':' host with
    | some (name, port) => if name.contains ':' then none else some port
    | none => none

/-- The decimal port of `host:port` or `[host]:port`. A bare IPv6 address has none. -/
def port? (host : String) : Option String :=
  ((portChars? host.toList).filter Net.isDecimal).map .ofList

/-! ## Schemes -/

def scheme? (url : String) : Option String :=
  ((Text.cut? "://" url).map (·.1)).filter (· ≠ "")

/-- The rest of an `http` or `https` URL after its scheme; other text stays. -/
def withoutHttpScheme (url : String) : String :=
  (Text.after? "http://" url <|> Text.after? "https://" url).getD url

end ServiceExposure.Address
