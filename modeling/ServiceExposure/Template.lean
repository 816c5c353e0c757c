import ServiceExposure.Text.Blank
import ServiceExposure.Text.Cut
import ServiceExposure.Text.Quoted

/-! # Host name templates

A template is literal text with placeholders for the name, the namespace and the domain of a
service. -/

namespace ServiceExposure

inductive Template.Segment where
  | literal (text : String)
  | service
  | inNamespace
  | domain
deriving DecidableEq, Repr

structure Template where
  segments : List Template.Segment
deriving DecidableEq, Repr

namespace Template

inductive Error where
  | unterminated (template : String)
  | unknownPlaceholder (name : String)
deriving DecidableEq, Repr

def opening : String := "\x7b\x7b"

def closing : String := "\x7d\x7d"

def Error.message : Error → String
  | .unterminated template => "unterminated placeholder in URL template " ++ Text.quote template
  | .unknownPlaceholder name =>
    "unknown placeholder " ++ opening ++ name ++ closing ++ " in URL template"

/-! ## Printing and rendering -/

def Segment.print : Segment → String
  | .literal text => text
  | .service => opening ++ ".Service" ++ closing
  | .inNamespace => opening ++ ".Namespace" ++ closing
  | .domain => opening ++ ".Domain" ++ closing

def print (t : Template) : String := String.join (t.segments.map Segment.print)

def Segment.render (service inNamespace domain : String) : Segment → String
  | .literal text => text
  | .service => service
  | .inNamespace => inNamespace
  | .domain => domain

def render (t : Template) (service inNamespace domain : String) : String :=
  String.join (t.segments.map (Segment.render service inNamespace domain))

/-! ## Parsing -/

def standard : Template :=
  ⟨[.service, .literal ".", .inNamespace, .literal ".", .domain]⟩

instance : Inhabited Template := ⟨standard⟩

def placeholder? (name : String) : Except Error Segment :=
  if name = ".Service" then .ok .service
  else if name = ".Namespace" then .ok .inNamespace
  else if name = ".Domain" then .ok .domain
  else .error (.unknownPlaceholder name)

def literal (cs : List Char) : List Segment :=
  if cs.isEmpty then [] else [.literal (.ofList cs)]

theorem length_lt_of_cutChars? {sep cs before after : List Char} (hs : sep ≠ [])
    (h : Text.cutChars? sep cs = some (before, after)) : after.length < cs.length := by
  have hpos : 0 < sep.length := List.length_pos_iff.2 hs
  rw [Text.eq_append_of_cutChars? h]
  simp only [List.length_append]
  omega

/-- The segments of `rest`, a part of the template `whole`. -/
def parseSegments (whole : String) (rest : List Char) : Except Error (List Segment) :=
  match _h₁ : Text.cutChars? ['\x7b', '\x7b'] rest with
  | none => .ok (literal rest)
  | some (before, opened) =>
    match _h₂ : Text.cutChars? ['\x7d', '\x7d'] opened with
    | none => .error (.unterminated whole)
    | some (name, after) => do
      let segment ← placeholder? (Text.trim (.ofList name))
      let segments ← parseSegments whole after
      return literal before ++ segment :: segments
termination_by rest.length
decreasing_by
  exact Nat.lt_trans (length_lt_of_cutChars? (by simp) _h₂) (length_lt_of_cutChars? (by simp) _h₁)

/-- Blank text means the standard template. -/
def parse (text : String) : Except Error Template :=
  if (Text.trim text).isEmpty then .ok standard
  else (parseSegments text text.toList).map fun s => ⟨s⟩

end Template

end ServiceExposure
