import ServiceExposure.Json

/-! # Merge patches

A merge patch names the members of an object that change: an object inside a patch is merged, `null`
removes a member, and every other document replaces what was there. `diff?` finds the patch between
two documents and `merge` applies one. -/

namespace ServiceExposure

namespace Json

/-! ## Applying a patch -/

mutual

/-- Applies a patch to a document. -/
def merge : (patch target : Json) → Json
  | .object changes, target => .object (mergeMembers changes target.members)
  | patch, _ => patch
termination_by structural patch => patch

def mergeMembers : (changes members : List (String × Json)) → List (String × Json)
  | [], members => members
  | change :: changes, members => mergeMembers changes (mergeMember change members)
termination_by structural changes => changes

def mergeMember : String × Json → List (String × Json) → List (String × Json)
  | (key, .null), members => Entries.erase key members
  | (key, patch), members =>
    Entries.insert key (merge patch ((Entries.get? key members).getD .null)) members
termination_by structural change => change

end

/-! ## Finding a patch -/

mutual

/-- The patch that turns the first document into the second, or `none` if they agree. -/
def diff? : (old new : Json) → Option Json
  | .object old, .object new =>
    let added := new.filter fun m => (Entries.get? m.1 old).isNone
    match added.foldl (fun ms m => Entries.insert m.1 m.2 ms) (diffMembers old new) with
    | [] => none
    | changes => some (.object changes)
  | old, new => if agrees old new then none else some new
termination_by structural old => old

/-- The changes to members of the first object: `null` where the second object lacks a member. -/
def diffMembers : (old new : List (String × Json)) → List (String × Json)
  | [], _ => []
  | m :: old, new => diffMember m new ++ diffMembers old new
termination_by structural old => old

def diffMember : String × Json → List (String × Json) → List (String × Json)
  | (key, old), new =>
    match Entries.get? key new with
    | none => [(key, .null)]
    | some value => ((diff? old value).map (key, ·)).toList
termination_by structural m => m

end

end Json

end ServiceExposure
