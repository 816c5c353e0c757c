import ServiceExposure.Cluster
import ServiceExposure.Discovery
import ServiceExposure.Proofs.Outcomes

/-! # The order of listings

Nothing that a cluster lists is chosen by its place: a node counts only if it is the only one, or
the only one with its label. So two stores that list the same nodes and paths in another order lead
to the same strategy, or to the same failure. -/

namespace ServiceExposure

variable {σ α β : Type}

/-! ## Rearranged lists -/

section

variable {one other : List α}

theorem only?_eq_some_iff {a : α} : only? one = some a ↔ one = [a] := by
  rcases one with - | ⟨first, - | ⟨second, rest⟩⟩ <;> simp [only?]

theorem only?_of_perm (h : one.Perm other) : only? one = only? other := by
  ext a
  rw [only?_eq_some_iff, only?_eq_some_iff]
  constructor
  · rintro rfl
    exact List.perm_singleton.1 h.symm
  · rintro rfl
    exact List.perm_singleton.1 h

end

section

variable {one other : List Node}

theorem domainNode?_of_perm (h : one.Perm other) : domainNode? one = domainNode? other := by
  rw [domainNode?, domainNode?, only?_of_perm h, only?_of_perm (h.filter Node.holdsExternalIP)]

theorem soleNodeIP_of_only?_eq_none (h : only? one = none) :
    soleNodeIP one = .error { cause := .notSingleNode one.length } := by
  rcases one with - | ⟨first, - | ⟨second, rest⟩⟩
  · rfl
  · cases h
  · rfl

-- the failure counts the nodes, which no order changes either
theorem soleNodeIP_of_perm (h : one.Perm other) : soleNodeIP one = soleNodeIP other := by
  cases hone : only? one with
  | none =>
    have hother : only? other = none := only?_of_perm h ▸ hone
    rw [soleNodeIP_of_only?_eq_none hone, soleNodeIP_of_only?_eq_none hother, h.length_eq]
  | some node =>
    have hother : only? other = some node := only?_of_perm h ▸ hone
    rw [only?_eq_some_iff.1 hone, only?_eq_some_iff.1 hother]

end

theorem Platform.ofApiPaths_of_perm {one other : List String} (h : one.Perm other) :
    ofApiPaths one = ofApiPaths other := by
  rw [ofApiPaths, ofApiPaths, h.contains_eq]

/-! ## Rearranged listings -/

namespace Attempt

/-- Outcomes of listing the same in another order, or of failing alike. -/
inductive Rearranged : Except Failure (List α) × σ → Except Failure (List α) × σ → Prop where
  | listed {one other : List α} {s : σ} (h : one.Perm other) :
      Rearranged (.ok one, s) (.ok other, s)
  | failed (failure : Failure) (s : σ) : Rearranged (.error failure, s) (.error failure, s)

/-- Listings that agree in every state, up to the order. -/
def SameUpToOrder (one other : Attempt (StateM σ) (List α)) : Prop :=
  ∀ s, Rearranged (one.outcome s) (other.outcome s)

theorem ext_outcome {one other : Attempt (StateM σ) α} (h : ∀ s, one.outcome s = other.outcome s) :
    one = other :=
  funext h

namespace SameUpToOrder

variable {one other : Attempt (StateM σ) (List α)}

theorem within (h : one.SameUpToOrder other) (context : String) :
    (Attempt.within context one).SameUpToOrder (Attempt.within context other) := by
  intro s
  rw [outcome_within, outcome_within]
  have hs := h s
  generalize one.outcome s = before, other.outcome s = after at hs ⊢
  cases hs with
  | listed hperm => exact .listed hperm
  | failed failure after => exact .failed _ after

/-- What goes on alike with rearranged lists cannot tell the listings apart. -/
theorem bind_eq (h : one.SameUpToOrder other) {next : List α → Attempt (StateM σ) β}
    {next' : List α → Attempt (StateM σ) β}
    (hnext : ∀ {l l' : List α}, l.Perm l' → next l = next' l') :
    one >>= next = other >>= next' := by
  refine ext_outcome fun s => ?_
  rw [outcome_bind, outcome_bind]
  have hs := h s
  generalize one.outcome s = before, other.outcome s = after at hs ⊢
  cases hs with
  | listed hperm => exact congrArg (outcome · _) (hnext hperm)
  | failed failure after => rfl

end SameUpToOrder

theorem sameUpToOrder_reverse (listing : Attempt (StateM σ) (List α)) :
    listing.SameUpToOrder (List.reverse <$> listing) := by
  intro s
  rw [outcome_map]
  rcases listing.outcome s with ⟨failure | listed, after⟩
  · exact .failed failure after
  · exact .listed listed.reverse_perm.symm

end Attempt

/-! ## Rearranged stores -/

/-- Two stores that differ, as far as a strategy is selected from them, in the order of their
listings only. -/
structure Store.SameUpToOrder (one other : Store (StateM σ)) : Prop where
  apiPaths : one.apiPaths.SameUpToOrder other.apiPaths
  nodes : one.nodes.SameUpToOrder other.nodes
  pod? : one.pod? = other.pod?

/-- The store that lists nodes and paths the other way round. -/
def Store.reversed (store : Store (StateM σ)) : Store (StateM σ) :=
  { store with apiPaths := List.reverse <$> store.apiPaths, nodes := List.reverse <$> store.nodes }

theorem Store.sameUpToOrder_reversed (store : Store (StateM σ)) :
    store.SameUpToOrder store.reversed where
  apiPaths := Attempt.sameUpToOrder_reverse _
  nodes := Attempt.sameUpToOrder_reverse _
  pod? := rfl

variable {one other : Store (StateM σ)}

theorem Platform.detect_of_sameUpToOrder (h : one.SameUpToOrder other) :
    detect one = detect other :=
  (h.apiPaths.within _).bind_eq fun hpaths => by rw [ofApiPaths_of_perm hpaths]

theorem discoverDomain_of_sameUpToOrder (h : one.SameUpToOrder other) :
    discoverDomain one = discoverDomain other :=
  (h.nodes.within _).bind_eq fun hnodes => by rw [domainNode?_of_perm hnodes, h.pod?]

theorem Config.resolveDomain_of_sameUpToOrder (c : Config) (h : one.SameUpToOrder other) :
    c.resolveDomain one = c.resolveDomain other := by
  rw [resolveDomain, resolveDomain, discoverDomain_of_sameUpToOrder h]

theorem Strategy.resolveNodePort_of_sameUpToOrder (configured : Option String)
    (h : one.SameUpToOrder other) :
    resolveNodePort configured one = resolveNodePort configured other := by
  cases configured with
  | some ip => rfl
  | none => exact (h.nodes.within _).bind_eq fun hnodes => by rw [soleNodeIP_of_perm hnodes]

/-- The strategy that is selected does not depend on the order in which nodes and paths are listed,
and neither does the failure to select one. -/
theorem selection_ignores_order (c : Config) (h : one.SameUpToOrder other) :
    Strategy.select c one = Strategy.select c other := by
  rw [Strategy.select, Strategy.select, Platform.detect_of_sameUpToOrder h,
    c.resolveDomain_of_sameUpToOrder h, Strategy.resolveNodePort_of_sameUpToOrder _ h]

def unlabelledNode : Node where
  metadata := { name := some "a" }
  status := some { addresses := some [⟨"InternalIP", "10.0.0.1"⟩] }

def labelledNode : Node where
  metadata := { name := some "b", labels := some (.ofList [( Annotation.externalIP, "true")]) }
  status := some { addresses := some [⟨"InternalIP", "10.0.0.2"⟩] }

def clusterOfLabelledNode : Cluster where
  apiPaths := ["/api", "/apis"]
  nodes := .ofList [(unlabelledNode.metadata.key, unlabelledNode),
    (labelledNode.metadata.key, labelledNode)]

theorem selection_ignores_order_labelled :
    Cluster.store.SameUpToOrder Cluster.store.reversed ∧
      (Cluster.store.nodes.outcome clusterOfLabelledNode).1 = .ok [unlabelledNode, labelledNode] ∧
      (Cluster.store.reversed.nodes.outcome clusterOfLabelledNode).1 =
        .ok [labelledNode, unlabelledNode] ∧
      Strategy.select {} Cluster.store = Strategy.select {} Cluster.store.reversed ∧
      ∃ st, ((Strategy.select {} Cluster.store).outcome clusterOfLabelledNode).1 =
        .ok (.ingress st) ∧
        st.domain = "10.0.0.2.nip.io" :=
  ⟨Store.sameUpToOrder_reversed _, rfl, rfl,
    selection_ignores_order {} (Store.sameUpToOrder_reversed _), _, rfl, rfl⟩

end ServiceExposure
