import ServiceExposure.Address
import ServiceExposure.Url

/-! # Forms of an exposed URL

A configuration map asks for the URL of a service in one or more of six forms. -/

namespace ServiceExposure

inductive UrlForm where
  /-- Without a slash at the end. -/
  | plain
  /-- With a slash at the end. -/
  | full
  /-- Without the scheme, and without a slash at the end. -/
  | noProtocol
  /-- Without the scheme, with a slash at the end. -/
  | fullNoProtocol
  /-- With `/` for its path. -/
  | noPath
  /-- The scheme alone. -/
  | protocol
deriving DecidableEq, Repr

namespace UrlForm

def all : List UrlForm := [plain, full, noProtocol, fullNoProtocol, noPath, protocol]

def name : UrlForm → String
  | plain => "expose"
  | full => "expose-full"
  | noProtocol => "expose-no-protocol"
  | fullNoProtocol => "expose-full-no-protocol"
  | noPath => "expose-no-path"
  | protocol => "expose-protocol"

/-- The key of the annotation that asks for this form of the URL of a service. -/
def requestKey (form : UrlForm) (service : String) : String :=
  form.name ++ ".service-key.config.fabric8.io/" ++ service

/-- The URL in this form. Only a URL that can be read has one without its path. -/
def render? (form : UrlForm) (url : String) : Option String :=
  let trimmed := Text.withoutLast '/' url
  match form with
  | plain => some trimmed
  | full => some (trimmed ++ "/")
  | noProtocol => some (Address.withoutHttpScheme trimmed)
  | fullNoProtocol => some (Address.withoutHttpScheme (trimmed ++ "/"))
  | noPath => (Url.rootOf url).toOption
  | protocol => Address.scheme? url

end UrlForm

end ServiceExposure
