import CrioDf.Store

/-!
# CrioDf.Walk

`walk_image_layers`, the walk up the parent chain from an image's top layer:

```
while layer_id and layer_id not in visited:
    visited.add(layer_id)
    layer = layers_by_id.get(layer_id)
    if not layer:
        break
    layers_walked.append(layer_id)
    layer_id = layer.get("parent")
```

The loop body is `walkStep` on an explicit `WalkState`; it returns `none` when the loop
exits, either because the condition is false or by `break`. `walkLoop` runs the body by
well-founded recursion: every pass that goes on adds to `visited` a key of `layers_by_id`
that was not visited before, so the number of unvisited keys falls
(`walkStep_unvisited_lt`). A layer record is a non-empty dict, so `not layer` holds
exactly when the lookup fails.

## Proof shape

The walk is characterised against the parent sequence `parentChain`
(`x₀ = image["layer"]`, `xᵢ₊₁ = layers_by_id[xᵢ]["parent"]`). The loop keeps `WalkInv`:
the walked ids are a `ChainPrefix` (the first terms of the sequence, non-empty keys,
pairwise distinct), `layer_id` is the next term, and `visited` holds the walked ids. A
step keeps it (`walkStep_inv`), and the step that returns `none` shows the next term is
not a fresh non-empty key (`WalkInv.stopsAt`). Together they give
`walkImageLayers_longest_chainPrefix`: the walk is the longest chain prefix.

`walkLoop_congr` is the locality fact the deletion argument needs: a walk reads only the
entries of the ids it visits, and the absence of the id where it stops.

`walkLoopFuel` runs the loop with a budget of passes. The variant bounds the passes that go
on, and at most one more ends in `break`, so more passes than unvisited keys always suffice
(`walkLoopFuel_eq_some`).

## Main results

* `walkImageLayers_longest_chainPrefix`: the walk is the longest chain prefix;
* `walkImageLayers_terminates_within_keys`: the walk finishes within one pass more than
  `layers_by_id` has keys, and returns at most one id per key.
-/

namespace CrioDf

/-- The variables of the loop in `walk_image_layers`. -/
structure WalkState where
  layerId : Option String
  visited : List String
  layersWalked : List String

/-- One pass of the loop body, `none` when the loop exits. -/
def walkStep (layersById : Dict String Layer) (s : WalkState) : Option WalkState :=
  match s.layerId with
  | some layerId =>
    if layerId ≠ "" ∧ layerId ∉ s.visited then
      (layersById.get? layerId).map fun layer =>
        { layerId := layer.parent, visited := layerId :: s.visited,
          layersWalked := s.layersWalked ++ [layerId] }
    else none
  | none => none

/-- The keys of `layers_by_id` not visited yet: the loop's variant. -/
def unvisited (layersById : Dict String Layer) (s : WalkState) : Nat :=
  (layersById.keys.filter (· ∉ s.visited)).length

/-- What one pass can do: take a fresh non-empty key, record it, and move to its parent. -/
theorem walkStep_eq_some {layersById : Dict String Layer} {s s' : WalkState} :
    walkStep layersById s = some s' ↔
      ∃ layerId layer, s.layerId = some layerId ∧ layerId ≠ "" ∧ layerId ∉ s.visited ∧
        layersById.get? layerId = some layer ∧
        s' = ⟨layer.parent, layerId :: s.visited, s.layersWalked ++ [layerId]⟩ := by
  unfold walkStep
  split
  · rename_i layerId hid
    by_cases hc : layerId ≠ "" ∧ layerId ∉ s.visited
    · cases hget : layersById.get? layerId with
      | none => simp [hc, hget, hid]
      | some layer => simp [hc, hget, hid, eq_comm]
    · simp only [hc, if_false]
      simp_all
  · simp_all

/-- When the loop exits, the current id is absent, empty, visited, or not a key. -/
theorem walkStep_eq_none {layersById : Dict String Layer} {s : WalkState} :
    walkStep layersById s = none ↔
      ∀ layerId, s.layerId = some layerId → layerId ≠ "" → layerId ∉ s.visited →
        layersById.get? layerId = none := by
  unfold walkStep
  split
  · split <;> simp_all
  · simp_all

theorem length_filter_not_mem_cons_lt {keys visited : List String} {k : String}
    (hk : k ∈ keys) (hv : k ∉ visited) :
    (keys.filter (· ∉ k :: visited)).length < (keys.filter (· ∉ visited)).length := by
  have split : keys.filter (· ∉ k :: visited) = (keys.filter (· ∉ visited)).filter (· ≠ k) := by
    rw [List.filter_filter]
    exact List.filter_congr fun x _ => by simp [and_comm]
  rw [split]
  exact List.length_filter_lt_length_iff_exists.mpr
    ⟨k, List.mem_filter.mpr ⟨hk, by simpa using hv⟩, by simp⟩

theorem walkStep_unvisited_lt {layersById : Dict String Layer} {s s' : WalkState}
    (h : walkStep layersById s = some s') : unvisited layersById s' < unvisited layersById s := by
  obtain ⟨layerId, layer, -, -, hv, hget, rfl⟩ := walkStep_eq_some.mp h
  exact length_filter_not_mem_cons_lt (Dict.mem_keys_of_get? hget) hv

/-- The `while` loop of `walk_image_layers`. -/
def walkLoop (layersById : Dict String Layer) (s : WalkState) : List String :=
  match _h : walkStep layersById s with
  | some s' => walkLoop layersById s'
  | none => s.layersWalked
termination_by unvisited layersById s
decreasing_by exact walkStep_unvisited_lt _h

/-- `walk_image_layers(image, layers_by_id)`. -/
def walkImageLayers (image : Image) (layersById : Dict String Layer) : List String :=
  walkLoop layersById ⟨image.layer, [], []⟩

theorem walkLoop_of_some {layersById : Dict String Layer} {s s' : WalkState}
    (h : walkStep layersById s = some s') : walkLoop layersById s = walkLoop layersById s' := by
  rw [walkLoop]; split <;> simp_all

theorem walkLoop_of_none {layersById : Dict String Layer} {s : WalkState}
    (h : walkStep layersById s = none) : walkLoop layersById s = s.layersWalked := by
  rw [walkLoop]; split <;> simp_all

/-- The walked list only grows. -/
theorem layersWalked_prefix_walkLoop (layersById : Dict String Layer) (s : WalkState) :
    s.layersWalked <+: walkLoop layersById s := by
  induction s using walkLoop.induct layersById with
  | case1 s s' h ih =>
    obtain ⟨layerId, layer, -, -, -, -, rfl⟩ := walkStep_eq_some.mp h
    rw [walkLoop_of_some h]
    exact (List.prefix_append _ _).trans ih
  | case2 s h => simp only [walkLoop_of_none h, List.prefix_refl]

/-! ### The parent sequence -/

/-- The parent sequence from `start`: `x₀ = start`, `xᵢ₊₁ = layers_by_id[xᵢ]["parent"]`,
`none` from the first id that is not a key, or whose layer has no parent. -/
def parentChain (layersById : Dict String Layer) (start : Option String) : Nat → Option String
  | 0 => start
  | n + 1 => (parentChain layersById start n).bind fun k => (layersById.get? k).bind Layer.parent

/-- `ids` are the first terms of the parent sequence from `start`; each is a non-empty key
of `layers_by_id`, and no two are equal. -/
def ChainPrefix (layersById : Dict String Layer) (start : Option String) (ids : List String) :
    Prop :=
  (∀ i (h : i < ids.length), parentChain layersById start i = some ids[i]) ∧
  (∀ k ∈ ids, k ≠ "" ∧ k ∈ layersById.keys) ∧ ids.Nodup

/-- The term after `ids` is not a fresh non-empty key: no longer chain prefix extends `ids`. -/
def StopsAt (layersById : Dict String Layer) (start : Option String) (ids : List String) : Prop :=
  ∀ k, parentChain layersById start ids.length = some k → k ≠ "" → k ∈ layersById.keys → k ∈ ids

/-- The invariant of the loop, for the walk from `start`. -/
structure WalkInv (layersById : Dict String Layer) (start : Option String) (s : WalkState) :
    Prop where
  chain : ChainPrefix layersById start s.layersWalked
  next : s.layerId = parentChain layersById start s.layersWalked.length
  visited : s.visited = s.layersWalked.reverse

theorem walkInv_init (layersById : Dict String Layer) (start : Option String) :
    WalkInv layersById start ⟨start, [], []⟩ :=
  ⟨⟨by simp, by simp, List.nodup_nil⟩, rfl, rfl⟩

/-- One pass keeps the invariant. -/
theorem walkStep_inv {layersById : Dict String Layer} {start : Option String} {s s' : WalkState}
    (hs : WalkInv layersById start s) (h : walkStep layersById s = some s') :
    WalkInv layersById start s' := by
  obtain ⟨k, layer, hk, hne, hv, hget, rfl⟩ := walkStep_eq_some.mp h
  obtain ⟨⟨hchain, hkeys, hnodup⟩, hnext, hvis⟩ := hs
  have hnotin : k ∉ s.layersWalked := by simpa [hvis] using hv
  refine ⟨⟨fun i hi => ?_, ?_, ?_⟩, ?_, by simp [hvis]⟩
  · rcases Nat.lt_or_ge i s.layersWalked.length with hlt | hge
    · rw [List.getElem_append_left hlt]; exact hchain i hlt
    · have hi' : i = s.layersWalked.length := by simp at hi; omega
      subst hi'
      simp [← hnext, hk]
  · simpa [or_imp, forall_and, hne, Dict.mem_keys_of_get? hget] using hkeys
  · exact List.nodup_append.mpr ⟨hnodup, List.nodup_singleton k, by simpa using hnotin⟩
  · simp [parentChain, ← hnext, hk, hget]

/-- The pass that exits leaves no fresh non-empty key next. -/
theorem WalkInv.stopsAt {layersById : Dict String Layer} {start : Option String} {s : WalkState}
    (hs : WalkInv layersById start s) (h : walkStep layersById s = none) :
    StopsAt layersById start s.layersWalked := by
  intro k hk hne hkey
  by_contra hnotin
  have hget := walkStep_eq_none.mp h k (hs.next.trans hk) hne (by simpa [hs.visited] using hnotin)
  simp [Dict.mem_keys_iff, hget] at hkey

/-- The whole loop, from a state that satisfies the invariant. -/
theorem walkLoop_spec {layersById : Dict String Layer} {start : Option String} (s : WalkState)
    (hs : WalkInv layersById start s) :
    ChainPrefix layersById start (walkLoop layersById s) ∧
      StopsAt layersById start (walkLoop layersById s) := by
  induction s using walkLoop.induct layersById with
  | case1 s s' h ih => rw [walkLoop_of_some h]; exact ih (walkStep_inv hs h)
  | case2 s h => rw [walkLoop_of_none h]; exact ⟨hs.chain, hs.stopsAt h⟩

/-- A chain prefix that stops is at least as long as every chain prefix. -/
theorem ChainPrefix.length_le {layersById : Dict String Layer} {start : Option String}
    {ids ids' : List String} (h : ChainPrefix layersById start ids)
    (hstop : StopsAt layersById start ids) (h' : ChainPrefix layersById start ids') :
    ids'.length ≤ ids.length := by
  by_contra hlt
  push_neg at hlt
  have hsame : ∀ i (hi : i < ids.length), ids'[i] = ids[i] := fun i hi =>
    Option.some.inj ((h'.1 i (hi.trans hlt)).symm.trans (h.1 i hi))
  have hnext := h'.2.1 _ (List.getElem_mem hlt)
  obtain ⟨j, hj, hjk⟩ := List.getElem_of_mem (hstop _ (h'.1 _ hlt) hnext.1 hnext.2)
  have hj' : j < ids'.length := hj.trans hlt
  have heq : ids'[j] = ids'[ids.length] := (hsame j hj).trans hjk
  have := h'.2.2.getElem_inj_iff.mp heq
  omega

/-- `walk_image_layers` returns the longest prefix of the parent sequence from the top layer
whose ids are non-empty keys of `layers_by_id`, pairwise distinct. -/
theorem walkImageLayers_longest_chainPrefix (image : Image) (layersById : Dict String Layer) :
    ChainPrefix layersById image.layer (walkImageLayers image layersById) ∧
      ∀ ids, ChainPrefix layersById image.layer ids →
        ids.length ≤ (walkImageLayers image layersById).length := by
  obtain ⟨hchain, hstop⟩ := walkLoop_spec _ (walkInv_init layersById image.layer)
  exact ⟨hchain, fun ids hids => hchain.length_le hstop hids⟩

theorem nodup_walkImageLayers (image : Image) (layersById : Dict String Layer) :
    (walkImageLayers image layersById).Nodup :=
  (walkLoop_spec _ (walkInv_init layersById image.layer)).1.2.2

theorem mem_keys_of_mem_walkImageLayers {image : Image} {layersById : Dict String Layer}
    {k : String} (h : k ∈ walkImageLayers image layersById) : k ∈ layersById.keys :=
  ((walkLoop_spec _ (walkInv_init layersById image.layer)).1.2.1 k h).2

/-- The walk depends on the image only through its top layer. -/
theorem walkImageLayers_eq_of_layer_eq {image image' : Image} (h : image.layer = image'.layer)
    (layersById : Dict String Layer) :
    walkImageLayers image layersById = walkImageLayers image' layersById := by
  simp [walkImageLayers, h]

/-! ### Locality -/

/-- A walk reads only the entries of the ids it visits, and the absence of the id where it
stops: a dict that agrees on the first and keeps the second gives the same walk. -/
theorem walkLoop_congr {layersById layersById' : Dict String Layer} (s : WalkState)
    (hnone : ∀ k, layersById.get? k = none → layersById'.get? k = none)
    (hsame : ∀ k ∈ walkLoop layersById s, layersById'.get? k = layersById.get? k) :
    walkLoop layersById' s = walkLoop layersById s := by
  induction s using walkLoop.induct layersById with
  | case1 s s' h ih =>
    rw [walkLoop_of_some h] at hsame ⊢
    obtain ⟨k, layer, hk, hne, hv, hget, rfl⟩ := walkStep_eq_some.mp h
    have hmem : k ∈ walkLoop layersById ⟨layer.parent, k :: s.visited, s.layersWalked ++ [k]⟩ :=
      (layersWalked_prefix_walkLoop layersById _).subset (List.mem_append_right _ (List.mem_singleton_self k))
    have h' : walkStep layersById' s = some _ :=
      walkStep_eq_some.mpr ⟨k, layer, hk, hne, hv, (hsame k hmem).trans hget, rfl⟩
    rw [walkLoop_of_some h', ih hsame]
  | case2 s h =>
    have h' : walkStep layersById' s = none := walkStep_eq_none.mpr fun k hk hne hv =>
      hnone k (walkStep_eq_none.mp h k hk hne hv)
    rw [walkLoop_of_none h, walkLoop_of_none h']

/-! ### Iteration bound -/

/-- The loop condition `layer_id and layer_id not in visited`. -/
def walkCond (s : WalkState) : Bool :=
  match s.layerId with
  | some layerId => decide (layerId ≠ "" ∧ layerId ∉ s.visited)
  | none => false

/-- The `while` loop allowed `fuel` passes through its body, a pass that ends in `break`
included: `none` when the condition still holds once they are spent. -/
def walkLoopFuel (layersById : Dict String Layer) : Nat → WalkState → Option (List String)
  | 0, s => if walkCond s then none else some s.layersWalked
  | fuel + 1, s =>
    match walkStep layersById s with
    | some s' => walkLoopFuel layersById fuel s'
    | none => some s.layersWalked

/-- A pass that goes on adds to `visited` a key of `layers_by_id` it did not hold. -/
theorem walkStep_visited {layersById : Dict String Layer} {s s' : WalkState}
    (h : walkStep layersById s = some s') :
    ∃ k ∈ layersById.keys, k ∉ s.visited ∧ s'.visited = k :: s.visited := by
  obtain ⟨k, layer, -, -, hv, hget, rfl⟩ := walkStep_eq_some.mp h
  exact ⟨k, Dict.mem_keys_of_get? hget, hv, rfl⟩

/-- Given more passes than unvisited keys, the loop finishes, with `walkLoop`'s result. -/
theorem walkLoopFuel_eq_some {layersById : Dict String Layer} {fuel : Nat} {s : WalkState}
    (h : unvisited layersById s < fuel) :
    walkLoopFuel layersById fuel s = some (walkLoop layersById s) := by
  induction fuel generalizing s with
  | zero => omega
  | succ fuel ih =>
    cases hstep : walkStep layersById s with
    | some s' =>
      have := walkStep_unvisited_lt hstep
      simp only [walkLoopFuel, hstep, walkLoop_of_some hstep, ih (s := s') (by omega)]
    | none => simp only [walkLoopFuel, hstep, walkLoop_of_none hstep]

@[simp]
theorem unvisited_init (layersById : Dict String Layer) (start : Option String) :
    unvisited layersById ⟨start, [], []⟩ = layersById.keys.length := by
  simp [unvisited]

/-- A walk read off the run with `keys.length + 1` passes, which `decide` evaluates. -/
theorem walkImageLayers_eq_of_walkLoopFuel {image : Image} {layersById : Dict String Layer}
    {ids : List String}
    (h : walkLoopFuel layersById (layersById.keys.length + 1) ⟨image.layer, [], []⟩ = some ids) :
    walkImageLayers image layersById = ids :=
  Option.some.inj ((walkLoopFuel_eq_some (by simp)).symm.trans h)

/-- The walk returns at most one id per key. -/
theorem length_walkImageLayers_le (image : Image) (layersById : Dict String Layer) :
    (walkImageLayers image layersById).length ≤ layersById.keys.length :=
  (List.subperm_of_subset (nodup_walkImageLayers image layersById)
    fun _ => mem_keys_of_mem_walkImageLayers).length_le

/-- Whatever the parent links, cycles included, the walk from an image's top layer finishes
within one pass more than `layers_by_id` has keys: a pass that goes on visits a fresh key,
so fewer keys are left unvisited. It returns at most one id per key. -/
theorem walkImageLayers_terminates_within_keys (image : Image) (layersById : Dict String Layer) :
    walkLoopFuel layersById (layersById.keys.length + 1) ⟨image.layer, [], []⟩ =
        some (walkImageLayers image layersById) ∧
      (∀ s s', walkStep layersById s = some s' →
        (∃ k ∈ layersById.keys, k ∉ s.visited ∧ s'.visited = k :: s.visited) ∧
          unvisited layersById s' < unvisited layersById s) ∧
      (walkImageLayers image layersById).length ≤ layersById.keys.length :=
  ⟨walkLoopFuel_eq_some (by simp), fun _ _ h => ⟨walkStep_visited h, walkStep_unvisited_lt h⟩,
    length_walkImageLayers_le image layersById⟩

/-- A dangling parent takes the last pass: one key, and the `break` is the second pass. -/
example : walkLoopFuel (layersById [⟨"a", some "b", none, none⟩]) 1 ⟨some "a", [], []⟩ = none ∧
    walkLoopFuel (layersById [⟨"a", some "b", none, none⟩]) 2 ⟨some "a", [], []⟩ = some ["a"] := by
  decide

end CrioDf
