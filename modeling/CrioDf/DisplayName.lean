import Mathlib.Data.List.Infix
import CrioDf.Store

/-!
# CrioDf.DisplayName

`get_image_display_name`: the repository and tag the report shows for an image.

```
name = names[0]
if "@sha256:" in name:
    name = name.split("@")[0]
if ":" in name:
    parts = name.rsplit(":", 1)
    if "/" in parts[1]:
        return (name, "latest")
    return (parts[0], parts[1])
else:
    return (name, "latest")
```

The Python string primitives are modelled on the character list of a `String`:
`containsStr` (`sub in s`), `splitHead` (`s.split(c)[0]`) and `rsplitOnce`
(`s.rsplit(c, 1)` when `c` occurs), whose parts are `beforeLast` and `afterLast`.

## Main result

`getImageDisplayName_of_names_cons`: with `m` the name cut before its first `'@'` when it
holds `"@sha256:"` (`containsStr_iff`, `splitHead_append`), the cascade of `in` tests is the
same as asking whether the last path segment (`afterLast m '/'`) holds a `':'`. When it
does, the name is split at its last `':'` into a repository and a tag that contains neither
`':'` nor `'/'`; otherwise the tag is `"latest"`, so a registry `host:port` colon is never
read as a tag.
-/

namespace CrioDf

/-- `sub in s` on strings. -/
def containsStr (s sub : String) : Bool := decide (sub.data <:+: s.data)

/-- `s.split(c)[0]`: the text before the first `c`, all of `s` if there is none. -/
def splitHead (s : String) (c : Char) : String := ⟨s.data.takeWhile (· ≠ c)⟩

/-- The text before the last `c` (empty if there is none). -/
def beforeLast (s : String) (c : Char) : String := ⟨(s.data.reverse.dropWhile (· ≠ c)).tail.reverse⟩

/-- The text after the last `c`, all of `s` if there is none. -/
def afterLast (s : String) (c : Char) : String := ⟨(s.data.reverse.takeWhile (· ≠ c)).reverse⟩

/-- `s.rsplit(c, 1)`, for an `s` that contains `c`: the two parts around the last `c`. -/
def rsplitOnce (s : String) (c : Char) : String × String := (beforeLast s c, afterLast s c)

/-- `get_image_display_name(image)`. -/
def getImageDisplayName (image : Image) : String × String :=
  match image.names with
  | [] => ("<none>", "<none>")
  | name :: _ =>
    let name := if containsStr name "@sha256:" then splitHead name '@' else name
    if ':' ∈ name.data then
      let parts := rsplitOnce name ':'
      if '/' ∈ parts.2.data then (name, "latest") else (parts.1, parts.2)
    else (name, "latest")

@[simp] theorem getImageDisplayName_nil {image : Image} (h : image.names = []) :
    getImageDisplayName image = ("<none>", "<none>") := by
  simp [getImageDisplayName, h]

/-! ### The last occurrence of a character -/

/-- Reading a reversed list up to the first `b`: `a` comes before any `b` exactly when `a`
occurs and no `b` comes before the first `a`. -/
theorem mem_takeWhile_ne_iff {a b : Char} (hab : a ≠ b) (r : List Char) :
    a ∈ r.takeWhile (· ≠ b) ↔ a ∈ r ∧ b ∉ r.takeWhile (· ≠ a) := by
  induction r with
  | nil => simp
  | cons x xs ih =>
    by_cases hxb : x = b
    · subst hxb; simp [List.takeWhile_cons, hab, Ne.symm hab]
    · by_cases hxa : x = a
      · subst hxa; simp [List.takeWhile_cons, hab]
      · simpa [List.takeWhile_cons, hxa, hxb, Ne.symm hxa, Ne.symm hxb] using ih

theorem exists_dropWhile_ne_eq_cons {c : Char} {r : List Char} (h : c ∈ r) :
    ∃ t, r.dropWhile (· ≠ c) = c :: t := by
  induction r with
  | nil => simp at h
  | cons x xs ih =>
    by_cases hx : x = c
    · exact ⟨xs, by simp [List.dropWhile_cons, hx]⟩
    · obtain ⟨t, ht⟩ := ih ((List.mem_cons.mp h).resolve_left (Ne.symm hx))
      exact ⟨t, by simpa [List.dropWhile_cons, hx] using ht⟩

theorem mem_afterLast_iff {a b : Char} (hab : a ≠ b) (s : String) :
    a ∈ (afterLast s b).data ↔ a ∈ s.data ∧ b ∉ (afterLast s a).data := by
  simpa [afterLast] using mem_takeWhile_ne_iff hab s.data.reverse

theorem not_mem_afterLast (s : String) (c : Char) : c ∉ (afterLast s c).data := fun h => by
  simpa using List.mem_takeWhile_imp (List.mem_reverse.mp h)

/-- A string that contains `c` is its text before the last `c`, then `c`, then the rest. -/
theorem beforeLast_append_afterLast {s : String} {c : Char} (h : c ∈ s.data) :
    beforeLast s c ++ String.singleton c ++ afterLast s c = s := by
  obtain ⟨t, ht⟩ := exists_dropWhile_ne_eq_cons (List.mem_reverse.mpr h)
  have hs := List.takeWhile_append_dropWhile (· ≠ c) s.data.reverse
  rw [ht] at hs
  apply String.ext
  conv_rhs => rw [← List.reverse_reverse s.data, ← hs]
  simp only [beforeLast, afterLast, String.singleton, String.data_append, ht, List.tail_cons,
    List.reverse_append, List.reverse_cons, List.append_assoc, List.singleton_append]
  rfl

/-! ### The digest cut -/

/-- `sub in s`: `s` holds `sub` somewhere. -/
theorem containsStr_iff {s sub : String} : containsStr s sub = true ↔ ∃ a b, s = a ++ sub ++ b := by
  simp only [containsStr, decide_eq_true_eq]
  constructor
  · rintro ⟨a, b, h⟩
    exact ⟨⟨a⟩, ⟨b⟩, String.ext (by simp [← h])⟩
  · rintro ⟨a, b, rfl⟩
    exact ⟨a.data, b.data, by simp⟩

/-- `s.split('@')[0]` of `m ++ "@" ++ t`, for an `m` without `'@'`, is `m`. -/
theorem splitHead_append {m t : String} (hm : '@' ∉ m.data) : splitHead (m ++ "@" ++ t) '@' = m := by
  apply String.ext
  have hne : ∀ c ∈ m.data, decide (c ≠ '@') = true := fun c hc => by
    simpa using fun h : c = '@' => hm (h ▸ hc)
  simp only [splitHead, String.data_append, List.append_assoc]
  rw [List.takeWhile_append_of_pos hne]
  simp [List.takeWhile_cons_of_neg]

/-! ### The display name -/

/-- The repository and tag of an image with a name `n`: first `m` is `n` cut before its first
`'@'` when `n` holds `"@sha256:"`, and `n` otherwise; then `m` is split at its last `':'`
exactly when its last path segment holds a `':'`, and the tag has no `':'` and no `'/'`. -/
theorem getImageDisplayName_of_names_cons (image : Image) (n m : String) (rest : List String)
    (h : image.names = n :: rest)
    (hm : ((∃ a b, n = a ++ "@sha256:" ++ b) ∧ '@' ∉ m.data ∧ ∃ t, n = m ++ "@" ++ t) ∨
      ((¬∃ a b, n = a ++ "@sha256:" ++ b) ∧ m = n)) :
    (':' ∈ (afterLast m '/').data →
        getImageDisplayName image = (beforeLast m ':', afterLast m ':') ∧
        beforeLast m ':' ++ ":" ++ afterLast m ':' = m ∧
        ':' ∉ (afterLast m ':').data ∧ '/' ∉ (afterLast m ':').data) ∧
      (':' ∉ (afterLast m '/').data → getImageDisplayName image = (m, "latest")) := by
  have hcut : (if containsStr n "@sha256:" then splitHead n '@' else n) = m := by
    rcases hm with ⟨hc, hat, t, rfl⟩ | ⟨hc, rfl⟩
    · rw [if_pos (containsStr_iff.2 hc), splitHead_append hat]
    · rw [if_neg (mt containsStr_iff.1 hc)]
  have hname : getImageDisplayName image =
      if ':' ∈ m.data then
        if '/' ∈ (afterLast m ':').data then (m, "latest") else (beforeLast m ':', afterLast m ':')
      else (m, "latest") := by
    simp only [getImageDisplayName, h, rsplitOnce]
    rw [hcut]
  have hiff := mem_afterLast_iff (by decide : ':' ≠ '/') m
  refine ⟨fun hc => ?_, fun hc => ?_⟩
  · obtain ⟨hcol, hs⟩ := hiff.mp hc
    exact ⟨by simp [hname, hcol, hs], beforeLast_append_afterLast hcol, not_mem_afterLast m ':', hs⟩
  · rw [hname]
    by_cases hcol : ':' ∈ m.data
    · have hs : '/' ∈ (afterLast m ':').data := by by_contra hs; exact hc (hiff.mpr ⟨hcol, hs⟩)
      simp [hcol, hs]
    · simp [hcol]

/-- A tagged reference with a registry port and a digest: the digest is cut, the port is
kept in the repository, and the tag follows the last `':'`. -/
theorem getImageDisplayName_registry_port_digest :
    (⟨"0123", ["registry.io:5000/app:v1@sha256:abcd"], none⟩ : Image).names =
        ["registry.io:5000/app:v1@sha256:abcd"] ∧
      (((∃ a b, "registry.io:5000/app:v1@sha256:abcd" = a ++ "@sha256:" ++ b) ∧
          '@' ∉ "registry.io:5000/app:v1".data ∧
          ∃ t, "registry.io:5000/app:v1@sha256:abcd" = "registry.io:5000/app:v1" ++ "@" ++ t) ∨
        ((¬∃ a b, "registry.io:5000/app:v1@sha256:abcd" = a ++ "@sha256:" ++ b) ∧
          "registry.io:5000/app:v1" = "registry.io:5000/app:v1@sha256:abcd")) ∧
      getImageDisplayName ⟨"0123", ["registry.io:5000/app:v1@sha256:abcd"], none⟩ =
        ("registry.io:5000/app", "v1") := by
  have hm : ((∃ a b, "registry.io:5000/app:v1@sha256:abcd" = a ++ "@sha256:" ++ b) ∧
      '@' ∉ "registry.io:5000/app:v1".data ∧
      ∃ t, "registry.io:5000/app:v1@sha256:abcd" = "registry.io:5000/app:v1" ++ "@" ++ t) :=
    ⟨⟨"registry.io:5000/app:v1", "abcd", by decide⟩, by decide, "sha256:abcd", by decide⟩
  exact ⟨rfl, .inl hm, ((getImageDisplayName_of_names_cons _ _ _ [] rfl (.inl hm)).1
    (by decide)).1.trans (by decide)⟩

end CrioDf
