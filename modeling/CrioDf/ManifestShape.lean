import CrioDf.Compressed

/-!
# CrioDf.ManifestShape

Which manifests `get_compressed_sizes` gets through. The script guards a missing file, an
unreadable one (`load_json_file` returns `[]`) and a falsy value; everything after that is
unguarded Python: `manifest.get` needs a dict, `for layer in layers` an iterable whose
elements have `.get`, `+=` a number, and `all_layers[digest]` a hashable digest.

`ManifestOk` states that acceptance directly on the JSON value, without running the loop.

## Proof shape

One lemma per stage of the loop body (`scanLayer_ok_iff`, `scanLayers_ok_iff`,
`scanImage_ok_iff`), each citing the one below; the run is `foldlM_except_ok_iff`, since
whether a pass raises depends only on the image's manifest and not on the maps built so far.

## Main results

* `getCompressedSizes_ok_iff`: the call returns normally exactly when every image's
  manifest is `ManifestOk`;
* `getCompressedSizes_number_manifest`: a manifest holding the number `1` makes the whole
  call raise `AttributeError`.
-/

namespace CrioDf

namespace JsonValue

/-- A value `int += v` accepts: a number or a boolean. -/
def IsNumber : JsonValue → Prop
  | num _ => True
  | bool _ => True
  | _ => False

/-- A value that can be a dict key: anything but a list or a dict. -/
def IsHashable : JsonValue → Prop
  | arr _ => False
  | obj _ => False
  | _ => True

theorem asInt_ok_iff (v : JsonValue) : (∃ n, v.asInt = .ok n) ↔ v.IsNumber := by
  cases v <;> simp [asInt, IsNumber]

theorem toKey_ok_iff (v : JsonValue) : (∃ k, v.toKey = .ok k) ↔ v.IsHashable := by
  cases v <;> simp [toKey, IsHashable]

end JsonValue

open JsonValue

/-- An element of `layers` that the loop reads: a dict whose `size`, when present, is a
number and whose `digest`, when present, is hashable. -/
def LayerShapeOk : JsonValue → Prop
  | .obj fields =>
    (∀ v, field? fields "size" = some v → v.IsNumber) ∧
    (∀ v, field? fields "digest" = some v → v.IsHashable)
  | _ => False

/-- A `layers` value the loop gets through: a list of readable elements, or an empty string
or dict (iterating a non-empty one yields strings, which have no `.get`). -/
def LayersShapeOk : JsonValue → Prop
  | .arr items => ∀ x ∈ items, LayerShapeOk x
  | .obj fields => fields = []
  | .str s => s = ""
  | _ => False

/-- A manifest `get_compressed_sizes` gets through: absent, unreadable, falsy, or a dict whose
`layers`, when present, the loop gets through. -/
def ManifestOk : ManifestFile → Prop
  | .json v =>
    v.isFalsy ∨ ∃ fields, v = .obj fields ∧
      ∀ layers, field? fields "layers" = some layers → LayersShapeOk layers
  | _ => True

/-- A default that satisfies `P` passes `P` through `getD`. -/
theorem getD_iff_of_default (P : JsonValue → Prop) (o : Option JsonValue) (d : JsonValue)
    (hd : P d) : P (o.getD d) ↔ ∀ v, o = some v → P v := by
  cases o <;> simp [hd]

theorem mem_eraseDups_loop {x : String} :
    ∀ (l bs : List String), x ∈ bs → x ∈ List.eraseDups.loop l bs
  | [], _, h => List.mem_reverse.2 h
  | a :: l, bs, h => by
    unfold List.eraseDups.loop
    split
    · exact mem_eraseDups_loop l bs h
    · exact mem_eraseDups_loop l _ (List.mem_cons_of_mem a h)

/-- A dict iterates over no key exactly when it has no field. -/
theorem eraseDups_keys_eq_nil {fields : List (String × JsonValue)} :
    (fields.map (·.1)).eraseDups = [] ↔ fields = [] := by
  cases fields with
  | nil => exact ⟨fun _ => rfl, fun _ => rfl⟩
  | cons f fields =>
    simp only [List.map_cons, reduceCtorEq, iff_false]
    exact List.ne_nil_of_mem (mem_eraseDups_loop _ [f.1] (List.mem_singleton_self _))

/-- One pass of the inner loop succeeds exactly on a readable element. -/
theorem scanLayer_ok_iff (acc : LayerScan) (layer : JsonValue) :
    (∃ acc', scanLayer acc layer = .ok acc') ↔ LayerShapeOk layer := by
  cases layer with
  | obj fields =>
    rw [LayerShapeOk, ← getD_iff_of_default IsNumber _ (.num 0) trivial,
      ← getD_iff_of_default IsHashable _ (.str "") trivial, ← asInt_ok_iff, ← toKey_ok_iff]
    simp only [scanLayer, JsonValue.get, except_bind_eq_ok, except_pure_eq_ok, Except.ok.injEq,
      exists_eq_left']
    constructor
    · rintro ⟨_, n, hn, k, hk, -⟩
      exact ⟨⟨n, hn⟩, k, hk⟩
    · rintro ⟨⟨n, hn⟩, k, hk⟩
      exact ⟨_, n, hn, k, hk, rfl⟩
  | _ => simp [scanLayer, JsonValue.get, bind, Except.bind, LayerShapeOk]

/-- Iterating `layers` and running the inner loop over it succeeds exactly on a `layers`
value the loop gets through. -/
theorem scanLayers_ok_iff (init : LayerScan) (layers : JsonValue) :
    (∃ items, layers.iter = .ok items ∧ ∃ r, items.foldlM scanLayer init = .ok r) ↔
      LayersShapeOk layers := by
  have hfold := foldlM_except_ok_iff scanLayer LayerShapeOk scanLayer_ok_iff
  cases layers with
  | arr items => simp [iter, hfold, LayersShapeOk]
  | obj fields =>
    rw [LayersShapeOk, ← eraseDups_keys_eq_nil, List.eq_nil_iff_forall_not_mem]
    simp [iter, hfold, LayerShapeOk]
  | str s => simp [iter, hfold, LayersShapeOk, LayerShapeOk, String.ext_iff,
      List.eq_nil_iff_forall_not_mem]
  | _ => simp [iter, LayersShapeOk]

/-- One pass of the loop over images succeeds exactly when the image's manifest is
`ManifestOk`, whatever the maps built so far. -/
theorem scanImage_ok_iff (manifests : String → ManifestFile) (acc : CompressedScan)
    (image : Image) :
    (∃ acc', scanImage manifests acc image = .ok acc') ↔ ManifestOk (manifests image.id) := by
  cases hfile : manifests image.id with
  | missing => simp [scanImage, hfile, ManifestFile.pathExists, except_pure_eq_ok, ManifestOk]
  | unreadable =>
    simp [scanImage, hfile, ManifestFile.pathExists, loadJsonFile, isFalsy, except_pure_eq_ok,
      ManifestOk]
  | json v =>
    by_cases hv : v.isFalsy
    · simp [scanImage, hfile, ManifestFile.pathExists, loadJsonFile, hv, except_pure_eq_ok,
        ManifestOk]
    · cases v with
      | obj fields =>
        rw [ManifestOk, or_iff_right hv]
        simp only [JsonValue.obj.injEq, exists_eq_left']
        rw [← getD_iff_of_default LayersShapeOk _ (.arr []) (by simp [LayersShapeOk]),
          ← scanLayers_ok_iff ⟨0, [], acc.allLayers, acc.layerUsage⟩]
        simp only [scanImage, hfile, ManifestFile.pathExists, loadJsonFile, hv, JsonValue.get,
          Bool.not_true, Bool.false_eq_true, if_false, except_bind_eq_ok, except_pure_eq_ok,
          Except.ok.injEq, exists_eq_left']
        constructor
        · rintro ⟨_, items, hitems, r, hr, -⟩
          exact ⟨items, hitems, r, hr⟩
        · rintro ⟨items, hitems, r, hr⟩
          exact ⟨_, items, hitems, r, hr, rfl⟩
      | _ => simp_all [scanImage, ManifestFile.pathExists, loadJsonFile, JsonValue.get, bind,
          Except.bind, ManifestOk]

/-- The loop over images runs to its end exactly when every image's manifest is
`ManifestOk`. -/
theorem foldlM_scanImage_ok_iff (manifests : String → ManifestFile) (images : List Image) :
    (∃ acc, images.foldlM (scanImage manifests) ⟨Dict.empty, Dict.empty, []⟩ = .ok acc) ↔
      ∀ image ∈ images, ManifestOk (manifests image.id) :=
  foldlM_except_ok_iff (scanImage manifests) (fun image => ManifestOk (manifests image.id))
    (scanImage_ok_iff manifests) images _

theorem getCompressedSizes_ok_iff_foldlM (manifests : String → ManifestFile) (images : List Image) :
    (∃ r, getCompressedSizes manifests images = .ok r) ↔
      ∃ acc, images.foldlM (scanImage manifests) ⟨Dict.empty, Dict.empty, []⟩ = .ok acc := by
  simp only [getCompressedSizes_eq_ok]
  exact ⟨fun ⟨_, acc, hacc, _⟩ => ⟨acc, hacc⟩, fun ⟨acc, hacc⟩ => ⟨_, acc, hacc, rfl⟩⟩

/-- `get_compressed_sizes` returns normally exactly when every image's manifest is
`ManifestOk`. -/
theorem getCompressedSizes_ok_iff (manifests : String → ManifestFile) (images : List Image) :
    (∃ r, getCompressedSizes manifests images = .ok r) ↔
      ∀ image ∈ images, ManifestOk (manifests image.id) := by
  rw [getCompressedSizes_ok_iff_foldlM, foldlM_scanImage_ok_iff]

/-- A manifest holding a number: `manifest.get` raises, and nothing catches it. -/
theorem getCompressedSizes_number_manifest :
    getCompressedSizes (fun _ => .json (.num 1)) [⟨"aaaa", ["app:v1"], some "top"⟩] =
      .error .attributeError :=
  rfl

end CrioDf
