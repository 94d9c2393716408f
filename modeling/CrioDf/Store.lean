import CrioDf.Dict

/-!
# CrioDf.Store

The records `crio-df.py` reads from `/var/lib/containers/storage`, with the fields the
script reads and nothing else:

* `Layer` — a record of `overlay-layers/layers.json`;
* `Image` — a record of `overlay-images/images.json`;
* `VolatileLayer` — a record of `overlay-layers/volatile-layers.json` (a container's
  writable layer).

Each optional JSON field is an `Option`, `none` standing for both an absent key and
`null`, which `.get` does not tell apart. `layerSize` is the size rule that `main`
writes out twice, and `layersById` is the `layers_by_id` dict. With pairwise distinct
layer ids, `layersById` does not depend on the order of the layers list
(`layersById_get?_perm`).
-/

namespace CrioDf

/-- A record of `overlay-layers/layers.json`. -/
structure Layer where
  id : String
  /-- `layer.get("parent")`. -/
  parent : Option String
  /-- `layer.get("diff-size")`. -/
  diffSize : Option Int
  /-- `layer.get("uncompress_size")`. -/
  uncompressSize : Option Int
  deriving Repr, DecidableEq

/-- A record of `overlay-images/images.json`. -/
structure Image where
  id : String
  /-- `image.get("names", [])`. -/
  names : List String
  /-- `image.get("layer")`, the image's top layer. -/
  layer : Option String
  deriving Repr, DecidableEq

/-- A record of `overlay-layers/volatile-layers.json`. -/
structure VolatileLayer where
  /-- `container.get("parent")`, the top layer of the container's image. -/
  parent : Option String
  deriving Repr, DecidableEq

/-- The size of a layer in `main`:
`diff_size if diff_size is not None else (layer.get("uncompress_size", 0) or 0)`. -/
def layerSize (layer : Layer) : Int :=
  match layer.diffSize with
  | some diffSize => diffSize
  | none => layer.uncompressSize.getD 0

/-- `layers_by_id = {layer["id"]: layer for layer in layers}`. -/
def layersById (layers : List Layer) : Dict String Layer :=
  layers.foldl (fun d layer => d.insert layer.id layer) Dict.empty

/-! ### Lookups in `layers_by_id` -/

/-- The last layer record with the id wins. -/
theorem layersById_get? (layers : List Layer) (k : String) :
    (layersById layers).get? k = layers.reverse.find? (·.id = k) := by
  simp [layersById, Dict.get?_foldl_insert]

theorem find?_key_eq_some {γ : Type} {key : γ → String} {xs : List γ} (h : (xs.map key).Nodup)
    {k : String} {x : γ} : xs.find? (key · = k) = some x ↔ x ∈ xs ∧ key x = k := by
  induction xs with
  | nil => simp
  | cons y xs ih =>
    rw [List.map_cons, List.nodup_cons] at h
    by_cases hy : key y = k
    · have : x ∈ xs → key x ≠ k := fun hx hk => h.1 (by rw [hy, ← hk]; exact List.mem_map_of_mem key hx)
      simp only [List.find?_cons, hy, decide_True, Option.some.injEq, List.mem_cons]
      aesop
    · simp [List.find?_cons, hy, ih h.2]
      aesop

/-- With pairwise distinct ids, the record under `k` is the one with id `k`. -/
theorem layersById_get?_eq_some {layers : List Layer} (h : (layers.map Layer.id).Nodup)
    {k : String} {layer : Layer} :
    (layersById layers).get? k = some layer ↔ layer ∈ layers ∧ layer.id = k := by
  rw [layersById_get?, find?_key_eq_some (by simpa using List.nodup_reverse.mpr h), List.mem_reverse]

theorem layersById_get?_perm {layers layers' : List Layer} (h : (layers.map Layer.id).Nodup)
    (hp : layers.Perm layers') (k : String) :
    (layersById layers').get? k = (layersById layers).get? k := by
  have h' : (layers'.map Layer.id).Nodup := h.perm (hp.map Layer.id)
  ext layer
  simp only [Option.mem_def, layersById_get?_eq_some h, layersById_get?_eq_some h', hp.mem_iff]

/-- Dropping the records whose id is in `removed` hides exactly those ids. -/
theorem layersById_get?_filter (layers : List Layer) (removed : List String) (k : String) :
    (layersById (layers.filter (·.id ∉ removed))).get? k =
      if k ∈ removed then none else (layersById layers).get? k := by
  simp only [layersById_get?, ← List.filter_reverse, List.find?_filter]
  by_cases hk : k ∈ removed
  · simp only [hk, if_true, List.find?_eq_none]
    intro layer _ h
    simp only [decide_eq_true_eq] at h
    exact h.1 (h.2 ▸ hk)
  · simp only [hk, if_false]
    congr 1; funext layer; by_cases h : layer.id = k <;> simp_all

end CrioDf
