import ServiceExposure.Yaml.Lexer

/-! # Documents of YAML

A document is a tree whose nodes may be named and referred to. -/

namespace ServiceExposure.Yaml

inductive Node where
  | scalar (tag : Option String) (style : Style) (text : String)
  | sequence (items : List Node)
  | mapping (members : List (Node × Node))
  /-- Another node, by its number among the named ones. -/
  | alias (number : Nat)
deriving Repr, Inhabited

namespace Node

/-- What stands where a node is missing. -/
def missing : Node := scalar none .plain ""

end Node

structure Document where
  /-- None if the text holds no document. -/
  root : Option Node
  /-- The named nodes with their numbers, in the order in which they end. -/
  named : List (Nat × Node)
deriving Repr, Inhabited

/-! ## Directives -/

/-- The short forms of tags that are known without a directive. -/
def standardShorthands : List (String × String) := [("!", "!"), ("!!", "tag:yaml.org,2002:")]

structure Directives where
  hasVersion : Bool := false
  shorthands : List (String × String) := []

/-- Takes the directives in front of a document: at most one version that can be read, and one start
for each handle. -/
def directives? (d : Directives) : List Token → Option (Directives × List Token)
  | .version major minor :: rest =>
    if !d.hasVersion && major = 1 && (minor = 1 || minor = 2) then
      directives? { d with hasVersion := true } rest
    else none
  | .shorthand handle start :: rest =>
    if d.shorthands.any (·.1 = handle) then none
    else directives? { d with shorthands := d.shorthands ++ [(handle, start)] } rest
  | tokens => some (d, tokens)

/-! ## Names -/

/-- Where building a document stands. -/
structure Progress where
  tokens : List Token
  shorthands : List (String × String)
  /-- The names given so far with the numbers of their nodes. -/
  names : List (String × Nat) := []
  named : List (Nat × Node) := []

abbrev Build := StateT Progress Option

/-- The next token; none at the end. -/
def next : Build (Option Token) := do return (← get).tokens.head?

def skip : Build Unit := modify fun p => { p with tokens := p.tokens.tail }

/-- Gives a name to the node that starts here. Its number counts the names that are known; a name
that is given again stands for the later node from then on. -/
def giveName (anchor : String) : Build Nat := do
  let names := (← get).names
  modify fun p => { p with names := (anchor, names.length) :: names.filter (·.1 ≠ anchor) }
  return names.length

def record (number : Nat) (node : Node) : Build Unit :=
  modify fun p => { p with named := p.named ++ [(number, node)] }

/-- The number of the node with a name. -/
def numberOf (name : String) : Build Nat := do
  let number ← (← get).names.lookup name
  return number

/-- The tag that a handle and a suffix make up. -/
def fullTag (handle suffix : String) : Build String := do
  if handle.isEmpty then return suffix
  let start ← ((← get).shorthands ++ standardShorthands).lookup handle
  return start ++ suffix

/-! ## Properties of nodes -/

/-- The number and the tag of a node. -/
structure Properties where
  number : Option Nat := none
  tag : Option String := none

def Properties.isEmpty (p : Properties) : Bool := p.number.isNone && p.tag.isNone

def anchor : Build (Option Nat) := do
  match ← next with
  | some (.anchor name) => skip; return some (← giveName name)
  | _ => return none

def tag : Build (Option String) := do
  match ← next with
  | some (.tag handle suffix) => skip; return some (← fullTag handle suffix)
  | _ => return none

/-- The anchor and the tag of a node, in either order. -/
def properties : Build Properties := do
  match ← anchor with
  | some number => return { number, tag := ← tag }
  | none =>
    let tag ← tag
    return { number := ← anchor, tag }

/-! ## Nodes -/

def endsItem (t : Option Token) : Bool := t = some .entry || t = some .blockEnd

def endsPart (t : Option Token) : Bool := t = some .key || t = some .value || t = some .blockEnd

def endsFlowItem (t : Option Token) : Bool := t = some .comma || t = some .flowSequenceEnd

def endsFlowPart (t : Option Token) : Bool := t = some .comma || t = some .flowMappingEnd

mutual

/-- A node. Block collections stand in blocks only; where `bare` holds, a sequence needs no
start. -/
def node (inBlock bare : Bool) (fuel : Nat) : Build Node :=
  match fuel with
  | 0 => failure
  | fuel + 1 => do
    if let some (.alias name) ← next then
      skip
      return .alias (← numberOf name)
    let p ← properties
    let node ← content inBlock bare p fuel
    if let some number := p.number then record number node
    return node

/-- What follows the properties of a node. Where nothing follows, the properties are those of an
empty scalar. -/
def content (inBlock bare : Bool) (p : Properties) (fuel : Nat) : Build Node :=
  match fuel with
  | 0 => failure
  | fuel + 1 => do
    match inBlock, bare, ← next with
    | _, true, some .entry => return .sequence (← bareItems fuel)
    | _, _, some (.scalar style text) => skip; return .scalar p.tag style text
    | _, _, some .flowSequence => skip; return .sequence (← firstFlowItem fuel)
    | _, _, some .flowMapping => skip; return .mapping (← firstFlowMember fuel)
    | true, _, some .blockSequence => skip; return .sequence (← items fuel)
    | true, _, some .blockMapping => skip; return .mapping (← members fuel)
    | _, _, _ => if p.isEmpty then failure else return .scalar p.tag .plain ""

/-- A node, unless what follows shows that there is none. -/
def nodeUnless (isOver : Option Token → Bool) (inBlock bare : Bool) (fuel : Nat) : Build Node :=
  match fuel with
  | 0 => failure
  | fuel + 1 => do if isOver (← next) then return .missing else node inBlock bare fuel

/-- The items of a block sequence and its end. -/
def items (fuel : Nat) : Build (List Node) :=
  match fuel with
  | 0 => failure
  | fuel + 1 => do
    match ← next with
    | some .entry =>
      skip
      let item ← nodeUnless endsItem true false fuel
      return item :: (← items fuel)
    | some .blockEnd => skip; return []
    | _ => failure

/-- The items of a sequence that has neither start nor end. -/
def bareItems (fuel : Nat) : Build (List Node) :=
  match fuel with
  | 0 => failure
  | fuel + 1 => do
    match ← next with
    | some .entry =>
      skip
      let item ← nodeUnless (fun t => endsItem t || endsPart t) true false fuel
      return item :: (← bareItems fuel)
    | _ => return []

/-- The value of a member, if there is a colon in front of it. -/
def memberValue (isOver : Option Token → Bool) (inBlock : Bool) (fuel : Nat) : Build Node :=
  match fuel with
  | 0 => failure
  | fuel + 1 => do
    match ← next with
    | some .value => skip; nodeUnless isOver inBlock inBlock fuel
    | _ => return .missing

/-- The members of a block mapping and its end. -/
def members (fuel : Nat) : Build (List (Node × Node)) :=
  match fuel with
  | 0 => failure
  | fuel + 1 => do
    match ← next with
    | some .key =>
      skip
      let key ← nodeUnless endsPart true true fuel
      let value ← memberValue endsPart true fuel
      return (key, value) :: (← members fuel)
    | some .blockEnd => skip; return []
    | _ => failure

/-- The items of a flow sequence, from the first on, and its end. -/
def firstFlowItem (fuel : Nat) : Build (List Node) :=
  match fuel with
  | 0 => failure
  | fuel + 1 => do
    match ← next with
    | some .flowSequenceEnd => skip; return []
    | some .key =>
      skip
      let key ← singleKey fuel
      let value ← memberValue endsFlowItem false fuel
      return .mapping [(key, value)] :: (← flowItems fuel)
    | _ =>
      let item ← node false false fuel
      return item :: (← flowItems fuel)

/-- The key of an item that is a single member of a mapping. What stands in place of a missing key
is passed over. -/
def singleKey (fuel : Nat) : Build Node :=
  match fuel with
  | 0 => failure
  | fuel + 1 => do
    let t ← next
    if t = some .value || endsFlowItem t then skip; return .missing else node false false fuel

/-- The rest of a flow sequence after an item. -/
def flowItems (fuel : Nat) : Build (List Node) :=
  match fuel with
  | 0 => failure
  | fuel + 1 => do
    match ← next with
    | some .flowSequenceEnd => skip; return []
    | some .comma => skip; firstFlowItem fuel
    | _ => failure

/-- The members of a flow mapping, from the first on, and its end. A member may lack its value. -/
def firstFlowMember (fuel : Nat) : Build (List (Node × Node)) :=
  match fuel with
  | 0 => failure
  | fuel + 1 => do
    match ← next with
    | some .flowMappingEnd => skip; return []
    | some .key =>
      skip
      let key ← nodeUnless (fun t => t = some .value || endsFlowPart t) false false fuel
      let value ← memberValue endsFlowPart false fuel
      return (key, value) :: (← flowMembers fuel)
    | _ =>
      let key ← node false false fuel
      return (key, .missing) :: (← flowMembers fuel)

/-- The rest of a flow mapping after a member. -/
def flowMembers (fuel : Nat) : Build (List (Node × Node)) :=
  match fuel with
  | 0 => failure
  | fuel + 1 => do
    match ← next with
    | some .flowMappingEnd => skip; return []
    | some .comma => skip; firstFlowMember fuel
    | _ => failure

end

/-! ## Documents -/

/-- Whether a document with an explicit start has no content. -/
def hasNoContent : Option Token → Bool
  | none | some (.version _ _) | some (.shorthand _ _) | some .documentStart | some .documentEnd =>
    true
  | _ => false

/-- The one document of a text. Each step takes a token or opens one of four levels for the next, so
that five times the number of tokens bounds the steps. -/
def Document.ofTokens? (ts : List Token) : Option Document := do
  if ts.isEmpty then return { root := none, named := [] }
  let fuel := 5 * ts.length + 5
  let (d, rest) ← directives? {} ts
  let (root, p) ←
    match rest with
    | .documentStart :: rest =>
      (nodeUnless hasNoContent true false fuel).run { tokens := rest, shorthands := d.shorthands }
    | rest =>
      if rest.length = ts.length then
        (node true false fuel).run { tokens := rest, shorthands := [] }
      else none
  if (p.tokens.dropWhile (· = .documentEnd)).isEmpty then
    return { root := some root, named := p.named }
  else none

/-- Reads the one document of a text. -/
def document? (s : String) : Option Document := do
  Document.ofTokens? (← tokens? s)

end ServiceExposure.Yaml
