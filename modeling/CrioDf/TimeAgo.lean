import CrioDf.Json

/-!
# CrioDf.TimeAgo

`format_time_ago(timestamp)`, the CREATED column of the verbose report:

```
if not timestamp:
    return "Unknown"
try:
    created = ...  # fromisoformat for a str, fromtimestamp otherwise
    now = datetime.now(timezone.utc)
    diff = now - created
    days = diff.days
    if days == 0:
        hours = diff.seconds // 3600
        if hours == 0:
            return "Just now"
        return f"{hours} hour{'s' if hours > 1 else ''} ago"
    elif days == 1:
        return "Yesterday"
    elif days < 7:
        return f"{days} days ago"
    elif days < 30:
        weeks = days // 7 ...
    elif days < 365:
        months = days // 30 ...
    else:
        years = days // 365 ...
except Exception:
    return "Unknown"
```

Parsing the timestamp and reading the clock are not modelled: `elapsedSince` gives
`now - created` as a count of microseconds, the resolution of `datetime`, or `none` where
parsing raises. What follows is: the `timedelta` that count normalises to, and the text.
A JSON number is an integer in this model, so a fractional timestamp strictly between -1
and 1, truthy in Python but 0 here, is left out.

For a creation time in the past, the text is the elapsed time rounded down to the unit it
names, with the largest unit that fits (up to twelve months before the first year), and a
report printed later never shows a younger age. For a creation time in the future, as a
host clock running behind gives, `diff.days` is negative and the `days < 7` branch prints
it: "-1 days ago".

## Proof shape

`agoText_cases_of_nonneg` says once which branch a past `timedelta` takes, with its
condition as bounds on `days` and `seconds`; every result below is a case split on it and
linear arithmetic.

## Main results

* `formatTimeAgo_covers`: a past age is rounded down to its unit, with a count in range;
* `formatTimeAgo_mono`: a later report never shows a younger age.

`formatTimeAgo_future` records the branch a creation time in the future takes: a negative
day count.
-/

namespace CrioDf

/-! ### `timedelta` -/

/-- A `timedelta` in the normal form Python keeps: whole days, then seconds and microseconds
each below the next unit. -/
structure TimeDelta where
  days : Int
  seconds : Nat
  microseconds : Nat
  seconds_lt : seconds < 86400
  microseconds_lt : microseconds < 1000000

/-- The `timedelta` of `us` microseconds, normalised as `timedelta` does:
`s, us = divmod(us, 10**6)`, then `d, s = divmod(s, 24*3600)`. -/
def TimeDelta.ofMicroseconds (us : Int) : TimeDelta where
  days := us / 1000000 / 86400
  seconds := (us / 1000000 % 86400).toNat
  microseconds := (us % 1000000).toNat
  seconds_lt := by omega
  microseconds_lt := by omega

/-- The microseconds a `timedelta` stands for. -/
def TimeDelta.total (d : TimeDelta) : Int :=
  d.days * 86400000000 + d.seconds * 1000000 + d.microseconds

@[simp] theorem TimeDelta.total_ofMicroseconds (us : Int) :
    (TimeDelta.ofMicroseconds us).total = us := by
  simp only [TimeDelta.total, TimeDelta.ofMicroseconds]
  omega

/-- A later `timedelta` has at least as many days, and at least as many seconds on the same
day. -/
theorem TimeDelta.days_le_of_total_le {d d' : TimeDelta} (hle : d.total ≤ d'.total) :
    d.days ≤ d'.days ∧ (d.days = d'.days → d.seconds ≤ d'.seconds) := by
  have := d.seconds_lt
  have := d.microseconds_lt
  have := d'.seconds_lt
  have := d'.microseconds_lt
  simp only [TimeDelta.total] at hle
  omega

theorem TimeDelta.days_nonneg {d : TimeDelta} (h : 0 ≤ d.total) : 0 ≤ d.days := by
  have := d.seconds_lt
  have := d.microseconds_lt
  simp only [TimeDelta.total] at h
  omega

/-! ### The text -/

/-- What `format_time_ago` returns. -/
inductive TimeAgo
  | unknown
  | justNow
  | hours (n : Nat)
  | yesterday
  | days (n : Int)
  | weeks (n : Int)
  | months (n : Int)
  | years (n : Int)
  deriving DecidableEq

/-- `'s' if n > 1 else ''`. -/
def plural (n : Int) : String := if n > 1 then "s" else ""

/-- The string returned. -/
def TimeAgo.render : TimeAgo → String
  | unknown => "Unknown"
  | justNow => "Just now"
  | hours n => toString n ++ " hour" ++ plural n ++ " ago"
  | yesterday => "Yesterday"
  | days n => toString n ++ " days ago"
  | weeks n => toString n ++ " week" ++ plural n ++ " ago"
  | months n => toString n ++ " month" ++ plural n ++ " ago"
  | years n => toString n ++ " year" ++ plural n ++ " ago"

/-- The `try` body from `days = diff.days` on. -/
def agoText (diff : TimeDelta) : TimeAgo :=
  let days := diff.days
  if days = 0 then
    let hours := diff.seconds / 3600
    if hours = 0 then .justNow else .hours hours
  else if days = 1 then .yesterday
  else if days < 7 then .days days
  else if days < 30 then .weeks (days / 7)
  else if days < 365 then .months (days / 30)
  else .years (days / 365)

/-- `format_time_ago(timestamp)`, where `elapsedSince timestamp` is `now - created` in
microseconds, or `none` where parsing raises. -/
def formatTimeAgo (timestamp : JsonValue) (elapsedSince : JsonValue → Option Int) : TimeAgo :=
  if timestamp.isFalsy then .unknown else
  match elapsedSince timestamp with
  | none => .unknown
  | some us => agoText (.ofMicroseconds us)

/-! ### What a text means -/

/-- The elapsed times, in microseconds, that a text stands for when read as the age rounded
down to the unit it names: `[span.1, span.2)`. "Unknown" stands for none. -/
def TimeAgo.span : TimeAgo → Int × Int
  | unknown => (0, 0)
  | justNow => (0, 3600000000)
  | hours n => (n * 3600000000, (n + 1) * 3600000000)
  | yesterday => (86400000000, 2 * 86400000000)
  | days n => (n * 86400000000, (n + 1) * 86400000000)
  | weeks n => (n * 7 * 86400000000, (n + 1) * 7 * 86400000000)
  | months n => (n * 30 * 86400000000, (n + 1) * 30 * 86400000000)
  | years n => (n * 365 * 86400000000, (n + 1) * 365 * 86400000000)

/-- `t` is the elapsed time `us` rounded down to `t`'s unit. -/
def TimeAgo.Covers (t : TimeAgo) (us : Int) : Prop := t.span.1 ≤ us ∧ us < t.span.2

instance (t : TimeAgo) (us : Int) : Decidable (t.Covers us) :=
  inferInstanceAs (Decidable (_ ∧ _))

/-- The counts a past age is shown with: each at least one and below the next unit, except
that 360 to 364 days are still twelve months. -/
def TimeAgo.Canonical : TimeAgo → Prop
  | unknown => False
  | justNow => True
  | hours n => 1 ≤ n ∧ n < 24
  | yesterday => True
  | days n => 2 ≤ n ∧ n < 7
  | weeks n => 1 ≤ n ∧ n < 5
  | months n => 1 ≤ n ∧ n < 13
  | years n => 1 ≤ n

instance : DecidablePred TimeAgo.Canonical
  | .unknown => inferInstanceAs (Decidable False)
  | .justNow => inferInstanceAs (Decidable True)
  | .hours _ => inferInstanceAs (Decidable (_ ∧ _))
  | .yesterday => inferInstanceAs (Decidable True)
  | .days _ => inferInstanceAs (Decidable (_ ∧ _))
  | .weeks _ => inferInstanceAs (Decidable (_ ∧ _))
  | .months _ => inferInstanceAs (Decidable (_ ∧ _))
  | .years _ => inferInstanceAs (Decidable (_ ≤ _))

/-! ### The branches -/

/-- The branch a past `timedelta` takes, with its condition as bounds. -/
theorem agoText_cases_of_nonneg {d : TimeDelta} (h : 0 ≤ d.days) :
    (d.days = 0 ∧ d.seconds < 3600 ∧ agoText d = .justNow) ∨
    (d.days = 0 ∧ 3600 ≤ d.seconds ∧ agoText d = .hours (d.seconds / 3600)) ∨
    (d.days = 1 ∧ agoText d = .yesterday) ∨
    (2 ≤ d.days ∧ d.days < 7 ∧ agoText d = .days d.days) ∨
    (7 ≤ d.days ∧ d.days < 30 ∧ agoText d = .weeks (d.days / 7)) ∨
    (30 ≤ d.days ∧ d.days < 365 ∧ agoText d = .months (d.days / 30)) ∨
    (365 ≤ d.days ∧ agoText d = .years (d.days / 365)) := by
  dsimp only [agoText]
  split_ifs <;>
    simp only [reduceCtorEq, and_true, and_false, false_or, or_false, true_and] <;> omega

/-- A past `timedelta` is shown rounded down to its unit, with a count in range. -/
theorem agoText_covers {d : TimeDelta} (h : 0 ≤ d.total) :
    (agoText d).Covers d.total ∧ (agoText d).Canonical := by
  have := d.seconds_lt
  have := d.microseconds_lt
  have h0 := TimeDelta.days_nonneg h
  simp only [TimeAgo.Covers, TimeDelta.total] at h ⊢
  rcases agoText_cases_of_nonneg h0 with ⟨_, _, he⟩ | ⟨_, _, he⟩ | ⟨_, he⟩ | ⟨_, _, he⟩ |
      ⟨_, _, he⟩ | ⟨_, _, he⟩ | ⟨_, he⟩ <;>
    rw [he] <;> simp only [TimeAgo.span, TimeAgo.Canonical, and_true] <;> omega

/-- Of two past `timedelta`s, the later is shown with an age rounded down no smaller. -/
theorem agoText_mono {d d' : TimeDelta} (h : 0 ≤ d.total) (hle : d.total ≤ d'.total) :
    (agoText d).span.1 ≤ (agoText d').span.1 := by
  obtain ⟨hdays, hsec⟩ := TimeDelta.days_le_of_total_le hle
  have h0 := TimeDelta.days_nonneg h
  have := d.seconds_lt
  rcases agoText_cases_of_nonneg h0 with ⟨_, _, he⟩ | ⟨_, _, he⟩ | ⟨_, he⟩ | ⟨_, _, he⟩ |
      ⟨_, _, he⟩ | ⟨_, _, he⟩ | ⟨_, he⟩ <;>
  rcases agoText_cases_of_nonneg (h0.trans hdays) with ⟨_, _, he'⟩ | ⟨_, _, he'⟩ | ⟨_, he'⟩ |
      ⟨_, _, he'⟩ | ⟨_, _, he'⟩ | ⟨_, _, he'⟩ | ⟨_, he'⟩ <;>
    rw [he, he'] <;> dsimp only [TimeAgo.span] <;> omega

/-! ### `format_time_ago` -/

theorem formatTimeAgo_of_some {timestamp : JsonValue} {elapsedSince : JsonValue → Option Int}
    {us : Int} (hts : timestamp.isFalsy = false) (hus : elapsedSince timestamp = some us) :
    formatTimeAgo timestamp elapsedSince = agoText (.ofMicroseconds us) := by
  simp only [formatTimeAgo, hts, hus, Bool.false_eq_true, if_false]

/-- For a creation time in the past, CREATED is the elapsed time rounded down to the unit it
names, with the largest unit that fits: a count of at least one, below the next unit. -/
theorem formatTimeAgo_covers (timestamp : JsonValue) (elapsedSince : JsonValue → Option Int)
    (us : Int) (hts : timestamp.isFalsy = false) (hus : elapsedSince timestamp = some us)
    (hpast : 0 ≤ us) :
    (formatTimeAgo timestamp elapsedSince).Covers us ∧
      (formatTimeAgo timestamp elapsedSince).Canonical := by
  rw [formatTimeAgo_of_some hts hus]
  simpa using agoText_covers (d := .ofMicroseconds us) (by simpa using hpast)

/-- An image created 31 days ago is shown as one month. -/
theorem formatTimeAgo_covers_month :
    (JsonValue.str "2024-05-01T00:00:00Z").isFalsy = false ∧
    (fun _ => some (31 * 86400000000) : JsonValue → Option Int)
      (.str "2024-05-01T00:00:00Z") = some (31 * 86400000000) ∧ (0 : Int) ≤ 31 * 86400000000 ∧
    (formatTimeAgo (.str "2024-05-01T00:00:00Z") fun _ => some (31 * 86400000000)).Covers
      (31 * 86400000000) ∧
    (formatTimeAgo (.str "2024-05-01T00:00:00Z") fun _ => some (31 * 86400000000)).Canonical :=
  ⟨by decide, rfl, by decide, formatTimeAgo_covers _ _ _ (by decide) rfl (by decide)⟩

/-- 31 days print as `1 month ago`. -/
example : (formatTimeAgo (.str "2024-05-01T00:00:00Z") fun _ => some (31 * 86400000000)).render =
    "1 month ago" := by
  decide

/-- Of two reports on one image, the later never shows a younger age: the age rounded down
to the unit shown does not decrease as the clock moves on. -/
theorem formatTimeAgo_mono (timestamp : JsonValue) (elapsedSince elapsedSince' : JsonValue → Option Int)
    (us us' : Int) (hus : elapsedSince timestamp = some us)
    (hus' : elapsedSince' timestamp = some us') (hpast : 0 ≤ us) (hle : us ≤ us') :
    (formatTimeAgo timestamp elapsedSince).span.1 ≤
      (formatTimeAgo timestamp elapsedSince').span.1 := by
  cases hts : timestamp.isFalsy
  · rw [formatTimeAgo_of_some hts hus, formatTimeAgo_of_some hts hus']
    exact agoText_mono (by simpa using hpast) (by simpa using hle)
  · simp [formatTimeAgo, hts]

/-- Four weeks and a day, then a month: 29 and 30 days on. -/
theorem formatTimeAgo_mono_weeks_month :
    (fun _ => some (29 * 86400000000) : JsonValue → Option Int) (.str "2024-05-01T00:00:00Z") =
      some (29 * 86400000000) ∧
    (fun _ => some (30 * 86400000000) : JsonValue → Option Int) (.str "2024-05-01T00:00:00Z") =
      some (30 * 86400000000) ∧
    (0 : Int) ≤ 29 * 86400000000 ∧ (29 * 86400000000 : Int) ≤ 30 * 86400000000 ∧
    (formatTimeAgo (.str "2024-05-01T00:00:00Z") fun _ => some (29 * 86400000000)).span.1 ≤
      (formatTimeAgo (.str "2024-05-01T00:00:00Z") fun _ => some (30 * 86400000000)).span.1 :=
  ⟨rfl, rfl, by decide, by decide, formatTimeAgo_mono _ _ _ _ _ rfl rfl (by decide) (by decide)⟩

/-- A creation time in the future (a clock behind the one that stamped the image) is shown
as a negative number of days, never as "Just now". -/
theorem formatTimeAgo_future (timestamp : JsonValue) (elapsedSince : JsonValue → Option Int)
    (us : Int) (hts : timestamp.isFalsy = false) (hus : elapsedSince timestamp = some us)
    (hfuture : us < 0) :
    formatTimeAgo timestamp elapsedSince = .days (us / 86400000000) ∧ us / 86400000000 < 0 := by
  rw [formatTimeAgo_of_some hts hus]
  have hdays : (TimeDelta.ofMicroseconds us).days = us / 86400000000 := by
    simp only [TimeDelta.ofMicroseconds]
    omega
  refine ⟨?_, by omega⟩
  simp only [agoText, hdays]
  rw [if_neg (by omega), if_neg (by omega), if_pos (by omega)]

/-- One second in the future prints `-1 days ago`. -/
example : (formatTimeAgo (.str "2024-05-01T00:00:01Z") fun _ => some (-1000000)).render =
    "-1 days ago" := by
  decide

end CrioDf
