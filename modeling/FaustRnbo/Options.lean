import Mathlib.Data.List.Infix
import Mathlib.Data.Nat.Digits
import FaustRnbo.Metadata

/-!
# The MIDI and Polyphony Options

`get_midi_and_nvoices` scans the global `meta` entries of the DSP JSON for the first one with
an `options` key, reads the MIDI state as the substring test `"[midi:on]" in options`, and the
voice count with `re.search(r"\[nvoices:(\d+)\]", options)`.

The search is modelled as the regular-expression engine runs it on this pattern: at each
position from the left, the literal `[nvoices:`, then the greedy `\d+`, then `]`. Since `]`
is not a digit, backtracking into the digit run can never find a `]`, so a match at a position
is the maximal digit run followed by `]`. Which characters are digits (`\d` and `int` both
take Unicode category Nd) is a table outside the script: `DecimalDigits` takes it as data
and records the one fact the matcher relies on.

## Main results

* `searchNvoices_eq_some`, `searchNvoices_eq_none`: the search returns the digits of the
  leftmost `[nvoices:<digits>]`, and nothing exactly when there is none.
* `getMidiAndNvoices_first_options`: the result is `(None, None)` without an `options` entry,
  and otherwise is decided by the first one alone.
-/

namespace FaustRnbo

/-- The decimal digits as `\d` matches them and `int` reads them, with their values.
The bracket `]` is not one. -/
structure DecimalDigits where
  value : Char → Option (Fin 10)
  bracket_not_digit : value ']' = none

/-- The ASCII digits `0`..`9`. -/
def asciiDigits : DecimalDigits where
  value c := if h : 48 ≤ c.toNat ∧ c.toNat - 48 < 10 then some ⟨c.toNat - 48, h.2⟩ else none
  bracket_not_digit := rfl

section Search

variable (D : DecimalDigits)

/-- The digits before the first non-digit at the head of `s`, when that character is `]`:
the greedy `\d*` followed by `\]`. -/
def closeDigits : List Char → Option (List Char)
  | [] => none
  | c :: cs =>
    if (D.value c).isSome then (closeDigits cs).map (c :: ·)
    else if c = ']' then some [] else none

/-- The pattern `\[nvoices:(\d+)\]` matched at the head of `s`: the digits of its group. -/
def matchNvoices (s : List Char) : Option (List Char) :=
  if "[nvoices:".toList.isPrefixOf s then
    match closeDigits D (s.drop 9) with
    | some (d :: ds) => some (d :: ds)
    | _ => none
  else none

/-- `re.search(r"\[nvoices:(\d+)\]", s)`: the group of the match at the leftmost position
where the pattern matches. -/
def searchNvoices : List Char → Option (List Char)
  | [] => none
  | c :: cs =>
    match matchNvoices D (c :: cs) with
    | some ds => some ds
    | none => searchNvoices cs

/-- `int(group)`: the value of a string of decimal digits. -/
def digitsValue (ds : List Char) : Nat :=
  ds.foldl (fun n c => 10 * n + ((D.value c).map Fin.val).getD 0) 0

/-- At offset `k` the string reads `[nvoices:ds]`, with `ds` a nonempty run of digits. -/
def NvoicesAt (s : List Char) (k : Nat) (ds : List Char) : Prop :=
  ds ≠ [] ∧ (∀ c ∈ ds, (D.value c).isSome) ∧
    ∃ post, s.drop k = "[nvoices:".toList ++ (ds ++ ']' :: post)

variable {D}

/-- `int` reads digits most significant first: the value is `Nat.ofDigits 10` of the digit
values, least significant first. -/
theorem digitsValue_eq_ofDigits (ds : List Char) :
    digitsValue D ds =
      Nat.ofDigits 10 (ds.map fun c => ((D.value c).map Fin.val).getD 0).reverse := by
  induction ds using List.reverseRecOn with
  | nil => rfl
  | append_singleton ds c ih =>
    rw [digitsValue, List.foldl_append, ← digitsValue, ih]
    simp [Nat.ofDigits_cons, Nat.add_comm]

/-- A run of digits has a list of digit values. -/
theorem exists_digit_values {ds : List Char} (h : ∀ c ∈ ds, (D.value c).isSome) :
    ∃ vs : List (Fin 10), ds.map D.value = vs.map some := by
  induction ds with
  | nil => exact ⟨[], rfl⟩
  | cons c ds ih =>
    obtain ⟨v, hv⟩ := Option.isSome_iff_exists.mp (h c (List.mem_cons_self _ _))
    obtain ⟨vs, hvs⟩ := ih fun c' hc' => h c' (List.mem_cons_of_mem _ hc')
    exact ⟨v :: vs, by simp [hv, hvs]⟩

theorem digitsValue_of_values {ds : List Char} {vs : List (Fin 10)}
    (h : ds.map D.value = vs.map some) :
    digitsValue D ds = Nat.ofDigits 10 (vs.map Fin.val).reverse := by
  have hmap : (ds.map fun c => ((D.value c).map Fin.val).getD 0) = vs.map Fin.val := by
    have := congrArg (List.map fun o => (o.map Fin.val).getD 0) h
    simpa [List.map_map, Function.comp_def] using this
  rw [digitsValue_eq_ofDigits, hmap]

theorem closeDigits_append {ds : List Char} (post : List Char)
    (hds : ∀ c ∈ ds, (D.value c).isSome) : closeDigits D (ds ++ ']' :: post) = some ds := by
  induction ds with
  | nil => simp [closeDigits, D.bracket_not_digit]
  | cons d ds ih =>
    simp [closeDigits, hds d (List.mem_cons_self _ _),
      ih fun c hc => hds c (List.mem_cons_of_mem _ hc)]

theorem closeDigits_eq_some {s ds : List Char} :
    closeDigits D s = some ds ↔ (∀ c ∈ ds, (D.value c).isSome) ∧ ∃ post, s = ds ++ ']' :: post := by
  refine ⟨fun h => ?_, fun ⟨hds, post, hs⟩ => hs ▸ closeDigits_append post hds⟩
  induction s generalizing ds with
  | nil => simp [closeDigits] at h
  | cons c cs ih =>
    simp only [closeDigits] at h
    split_ifs at h with hc hb
    · obtain ⟨ds', h', rfl⟩ := Option.map_eq_some'.mp h
      obtain ⟨hall, post, rfl⟩ := ih h'
      exact ⟨by simpa [hc] using hall, post, rfl⟩
    · cases h
      exact ⟨by simp, cs, by simp [hb]⟩

private theorem drop_nvoices (x : List Char) : ("[nvoices:".toList ++ x).drop 9 = x :=
  List.drop_left "[nvoices:".toList x

theorem matchNvoices_eq_some {s ds : List Char} :
    matchNvoices D s = some ds ↔ NvoicesAt D s 0 ds := by
  simp only [NvoicesAt, List.drop_zero]
  constructor
  · intro h
    simp only [matchNvoices] at h
    split_ifs at h with hp
    obtain ⟨rest, rfl⟩ := List.isPrefixOf_iff_prefix.mp hp
    split at h
    · next d ds' hcl =>
      cases h
      obtain ⟨hall, post, hpost⟩ := closeDigits_eq_some.mp hcl
      rw [drop_nvoices] at hpost
      exact ⟨List.cons_ne_nil _ _, hall, post, hpost ▸ rfl⟩
    · cases h
  · rintro ⟨hne, hall, post, rfl⟩
    obtain ⟨d, ds', rfl⟩ := List.exists_cons_of_ne_nil hne
    rw [matchNvoices, if_pos (List.isPrefixOf_iff_prefix.mpr (List.prefix_append _ _)),
      drop_nvoices, closeDigits_append post hall]

theorem nvoicesAt_cons {c : Char} {cs ds : List Char} {k : Nat} :
    NvoicesAt D (c :: cs) (k + 1) ds ↔ NvoicesAt D cs k ds := by
  simp [NvoicesAt]

theorem not_nvoicesAt_nil {k : Nat} {ds : List Char} : ¬ NvoicesAt D [] k ds := by
  simp [NvoicesAt]

/-- **The search finds nothing exactly when no `[nvoices:<digits>]` occurs.** -/
theorem searchNvoices_eq_none {s : List Char} :
    searchNvoices D s = none ↔ ∀ k ds, ¬ NvoicesAt D s k ds := by
  induction s with
  | nil => simp [searchNvoices, not_nvoicesAt_nil]
  | cons c cs ih =>
    cases h : matchNvoices D (c :: cs) with
    | some ds₀ =>
      simpa [searchNvoices, h] using ⟨0, ds₀, matchNvoices_eq_some.mp h⟩
    | none =>
      simp only [searchNvoices, h, ih]
      refine ⟨fun hcs k ds hk => ?_, fun hall k ds hk => hall (k + 1) ds (nvoicesAt_cons.mpr hk)⟩
      cases k with
      | zero => simp [matchNvoices_eq_some.mpr hk] at h
      | succ k => exact hcs k ds (nvoicesAt_cons.mp hk)

/-- **The search returns the leftmost match.** It returns `ds` exactly when `[nvoices:ds]`
occurs at some offset and at no smaller offset does any `[nvoices:<digits>]` occur. -/
theorem searchNvoices_eq_some {s ds : List Char} :
    searchNvoices D s = some ds ↔
      ∃ k, NvoicesAt D s k ds ∧ ∀ j < k, ∀ ds', ¬ NvoicesAt D s j ds' := by
  induction s generalizing ds with
  | nil => simp [searchNvoices, not_nvoicesAt_nil]
  | cons c cs ih =>
    cases h : matchNvoices D (c :: cs) with
    | some ds₀ =>
      have h0 := matchNvoices_eq_some.mp h
      simp only [searchNvoices, h, Option.some.injEq]
      constructor
      · rintro rfl
        exact ⟨0, h0, fun j hj => absurd hj (Nat.not_lt_zero _)⟩
      · rintro ⟨k, hk, hmin⟩
        cases k with
        | zero => exact Option.some.inj (h.symm.trans (matchNvoices_eq_some.mpr hk))
        | succ k => exact absurd h0 (hmin 0 (Nat.succ_pos _) ds₀)
    | none =>
      simp only [searchNvoices, h, ih]
      constructor
      · rintro ⟨k, hk, hmin⟩
        refine ⟨k + 1, nvoicesAt_cons.mpr hk, fun j hj ds' hj' => ?_⟩
        cases j with
        | zero => simp [matchNvoices_eq_some.mpr hj'] at h
        | succ j => exact hmin j (by omega) ds' (nvoicesAt_cons.mp hj')
      · rintro ⟨k, hk, hmin⟩
        cases k with
        | zero => simp [matchNvoices_eq_some.mpr hk] at h
        | succ k =>
          exact ⟨k, nvoicesAt_cons.mp hk, fun j hj ds' hj' =>
            hmin (j + 1) (by omega) ds' (nvoicesAt_cons.mpr hj')⟩

end Search

/-- `"[midi:on]" in options`: Python's substring test. -/
def pyContains (s sub : String) : Bool :=
  decide (sub.toList <:+: s.toList)

section Scan

variable (D : DecimalDigits)

/-- The loop of `get_midi_and_nvoices` over the global `meta` entries: the first entry with
an `options` key sets both results, and the loop breaks there. -/
def scanOptions : List MetaEntry → Option Bool × Option Nat
  | [] => (none, none)
  | m :: rest =>
    match m.lookup "options" with
    | some options =>
      (some (pyContains options "[midi:on]"),
        (searchNvoices D options.toList).map (digitsValue D))
    | none => scanOptions rest

/-- `get_midi_and_nvoices`: the MIDI state and voice count of the DSP JSON's global
`meta` section, each `None` when no `options` entry gives it. -/
def getMidiAndNvoices (json : DspJson) : Option Bool × Option Nat :=
  scanOptions D json.meta

variable {D}

theorem scanOptions_append_of_no_options {pre : List MetaEntry} (rest : List MetaEntry)
    (hpre : ∀ m ∈ pre, m.lookup "options" = none) :
    scanOptions D (pre ++ rest) = scanOptions D rest := by
  induction pre with
  | nil => rfl
  | cons m pre ih =>
    simp only [List.mem_cons, forall_eq_or_imp] at hpre
    simp [scanOptions, hpre.1, ih hpre.2]

/-- **The first `options` entry decides.** Without an `options` entry the result is
`(None, None)`. Otherwise the first entry with one decides alone: the MIDI state is whether
its options string contains `[midi:on]`, the voice count is the number the digits of its
leftmost `[nvoices:<digits>]` denote in base ten, or `None` when there is none, and the entries
after it never change the result. -/
theorem getMidiAndNvoices_first_options (json : DspJson) :
    ((∀ m ∈ json.meta, m.lookup "options" = none) → getMidiAndNvoices D json = (none, none)) ∧
    ∀ pre m rest opts, json.meta = pre ++ m :: rest →
      (∀ m' ∈ pre, m'.lookup "options" = none) → m.lookup "options" = some opts →
      (getMidiAndNvoices D json).1 = some (decide ("[midi:on]".toList <:+: opts.toList)) ∧
      (∀ n, (getMidiAndNvoices D json).2 = some n ↔
        ∃ k ds, NvoicesAt D opts.toList k ds ∧ (∀ j < k, ∀ ds', ¬ NvoicesAt D opts.toList j ds') ∧
          ∃ vs : List (Fin 10), ds.map D.value = vs.map some ∧
            n = Nat.ofDigits 10 (vs.map Fin.val).reverse) ∧
      ((getMidiAndNvoices D json).2 = none ↔ ∀ k ds, ¬ NvoicesAt D opts.toList k ds) ∧
      ∀ rest', getMidiAndNvoices D { json with meta := pre ++ m :: rest' } =
        getMidiAndNvoices D json := by
  refine ⟨fun h => ?_, fun pre m rest opts hmeta hpre hm => ?_⟩
  · simpa [getMidiAndNvoices] using scanOptions_append_of_no_options (D := D) [] h
  · have hscan : ∀ rest', scanOptions D (pre ++ m :: rest') =
        (some (pyContains opts "[midi:on]"), (searchNvoices D opts.toList).map (digitsValue D)) :=
      fun rest' => by rw [scanOptions_append_of_no_options _ hpre, scanOptions, hm]
    simp only [getMidiAndNvoices, hmeta, hscan, pyContains, Option.map_eq_some',
      Option.map_eq_none', searchNvoices_eq_none, searchNvoices_eq_some]
    refine ⟨trivial, fun n => ⟨fun ⟨ds, ⟨k, hk, hmin⟩, hn⟩ => ?_, fun ⟨k, ds, hk, hmin, vs, hvs, hn⟩ =>
      ⟨ds, ⟨k, hk, hmin⟩, by rw [hn, digitsValue_of_values hvs]⟩⟩, trivial, fun _ => trivial⟩
    obtain ⟨vs, hvs⟩ := exists_digit_values hk.2.1
    exact ⟨k, ds, hk, hmin, vs, hvs, by rw [← hn, digitsValue_of_values hvs]⟩

end Scan

example : getMidiAndNvoices asciiDigits ⟨none, none, [[("name", "osc")],
    [("options", "[midi:on][nvoices:x][nvoices:12]")], [("options", "[nvoices:3]")]], none⟩ =
    (some true, some 12) := by decide

end FaustRnbo
