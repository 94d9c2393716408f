import CrioDf.Main

/-!
# CrioDf.Locality

What the uncompressed accounting reads of `layers`: the records of the layers some image's
walk reaches, and the absence of the ids where walks stop. So a layer record that no walk
reaches (an orphaned layer, or one of a deleted image) changes no figure of the report, and
deleting it changes nothing.

## Proof shape

`diskUsage_congr`: two layer lists that give every image the same walk and every walked layer
the same size give the same report. Each loop of `main` is a fold whose steps agree on the
items it visits (`foldlM_congr_mem`); the walks come from `walkLoop_congr`.

## Main results

* `diskUsage_filter_unreached`: deleting records no walk reaches leaves the report as it is.
-/

namespace CrioDf

/-- Two `Option` folds whose steps agree on the items of the list agree. -/
theorem foldlM_congr_mem {γ δ : Type} {f g : δ → γ → Option δ} {xs : List γ}
    (h : ∀ acc, ∀ x ∈ xs, f acc x = g acc x) (init : δ) :
    xs.foldlM f init = xs.foldlM g init := by
  induction xs generalizing init with
  | nil => rfl
  | cons x xs ih =>
    simp only [List.foldlM_cons, h init x (List.mem_cons_self _ _)]
    congr 1
    funext acc
    exact ih (fun acc y hy => h acc y (List.mem_cons_of_mem _ hy)) acc

/-- Two layer lists that give every image the same walk, and every walked layer the same
size, give the same report. -/
theorem diskUsage_congr {images : List Image} {layers layers' : List Layer}
    (volatileLayers : List VolatileLayer)
    (hwalk : ∀ image ∈ images,
      walkImageLayers image (layersById layers') = walkImageLayers image (layersById layers))
    (hsize : ∀ image ∈ images, ∀ l ∈ walkImageLayers image (layersById layers),
      sizeAt? (layersById layers') l = sizeAt? (layersById layers) l) :
    diskUsage images layers' volatileLayers = diskUsage images layers volatileLayers := by
  set byId := layersById layers
  set counted := countLayers byId images
  have hcount : countLayers (layersById layers') images = counted :=
    List.foldl_ext _ _ _ fun acc image himage => by rw [hwalk image himage]
  have htotal : totalSize (layersById layers') counted.1 = totalSize byId counted.1 := by
    refine foldlM_congr_mem (fun acc k hk => ?_) 0
    obtain ⟨image, himage, hw⟩ := (mem_countLayers_keys byId images k).mp hk
    rw [hsize image himage k hw]
  have hloop : ∀ perImage, imageDataLoop (layersById layers') counted.1 counted.2 perImage images =
      imageDataLoop byId counted.1 counted.2 perImage images := by
    refine fun perImage => foldlM_congr_mem (fun acc image himage => ?_) _
    obtain ⟨image', himage', hget⟩ := countLayers_get?_id_of_mem byId himage
    have hsplit : splitSizes (layersById layers') counted.1 (walkImageLayers image' byId) =
        splitSizes byId counted.1 (walkImageLayers image' byId) :=
      foldlM_congr_mem (fun acc l hl => by rw [hsize image' himage' l hl]) _
    simp only [imageEntry, hget, Option.bind_eq_bind, Option.some_bind, hsplit]
  simp only [diskUsage, hcount, htotal, hloop]

/-- Deleting layer records that no image's walk reaches changes nothing in the report. -/
theorem diskUsage_filter_unreached (images : List Image) (layers : List Layer)
    (volatileLayers : List VolatileLayer) (removed : List String)
    (hremoved : ∀ r ∈ removed, ∀ image ∈ images, r ∉ walkImageLayers image (layersById layers)) :
    diskUsage images (layers.filter (·.id ∉ removed)) volatileLayers =
      diskUsage images layers volatileLayers := by
  refine diskUsage_congr volatileLayers (fun image himage => ?_) fun image himage l hl => ?_
  · refine walkLoop_congr _ (fun k hk => by rw [layersById_get?_filter, hk, ite_self]) fun k hk => ?_
    rw [layersById_get?_filter, if_neg fun hr => hremoved k hr image himage hk]
  · rw [sizeAt?, sizeAt?, layersById_get?_filter, if_neg fun hr => hremoved l hr image himage hl]

/-- An orphaned layer record next to an image's chain. -/
theorem diskUsage_filter_unreached_orphan :
    (∀ r ∈ ["orphan"], ∀ image ∈ ([⟨"aaaa", ["app:v1"], some "la"⟩] : List Image),
      r ∉ walkImageLayers image (layersById [⟨"base", none, some 1000, none⟩,
        ⟨"la", some "base", some 200, none⟩, ⟨"orphan", none, some 70, none⟩])) ∧
    diskUsage [⟨"aaaa", ["app:v1"], some "la"⟩]
        ([⟨"base", none, some 1000, none⟩, ⟨"la", some "base", some 200, none⟩,
          ⟨"orphan", none, some 70, none⟩].filter (·.id ∉ ["orphan"])) [] =
      diskUsage [⟨"aaaa", ["app:v1"], some "la"⟩] [⟨"base", none, some 1000, none⟩,
        ⟨"la", some "base", some 200, none⟩, ⟨"orphan", none, some 70, none⟩] [] := by
  have hwalk : walkImageLayers ⟨"aaaa", ["app:v1"], some "la"⟩ (layersById
      [⟨"base", none, some 1000, none⟩, ⟨"la", some "base", some 200, none⟩,
        ⟨"orphan", none, some 70, none⟩]) = ["la", "base"] :=
    walkImageLayers_eq_of_walkLoopFuel (by decide)
  refine (fun h => ⟨h, diskUsage_filter_unreached _ _ _ _ h⟩) ?_
  simp [hwalk]

end CrioDf
