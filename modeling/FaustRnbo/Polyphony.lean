import Mathlib.Data.List.Infix
import FaustRnbo.RnboWiring

/-!
# The Polyphony Analysis

While it wires the parameters, `add_rnbo_object` classifies their shortnames when MIDI is on and
the voice count is positive: a shortname ending in `freq` or `key` makes its relay the pitch
handle, one ending in `gain` or `velocity` the gain handle, one ending in `gate` the gate
handle, each overwriting the one before, and the flags `is_freq` and `is_gain` record which
suffix the pitch and the gain handle came from. After the loop it calls
`add_polyphony_control` when the three handles are set.

This module states the outcome of that accumulation without the loop. The roles are stated
with list suffixes (`<:+`), and `pyEndsWith_eq_decide` proves that the code's `str.endswith`
is that test. The five suffixes are not suffixes of one another, so a shortname has at most one role and the elif chain updates
each accumulator on its own role (`analyse_eq`); each accumulator then ends up written by the
last parameter of its role in document order (`lastMatch`, `voicingFrom_field`).

## Main results

* `lastMatch_eq_some`: `lastMatch` finds the last entry of a list with a property.
* `voicingFrom_field`: after the loop every accumulator holds what the last parameter of its
  role wrote.
* `addRnboObject_polyphony`: the subpatcher of the `rnbo~` box is the subpatcher of the
  parameter loop, followed by the polyphony subgraph exactly when MIDI is on, the voice count is
  positive and the three roles occur; the subgraph then feeds the relays of the last parameter
  of each role, in the modes their suffixes select.
-/

namespace FaustRnbo

/-! ### The last entry with a property -/

/-- The position and the value of the last entry of a list that satisfies `p`. -/
def lastMatch {α : Type} (p : α → Bool) : List α → Option (Nat × α)
  | [] => none
  | a :: as =>
    match lastMatch p as with
    | some (i, b) => some (i + 1, b)
    | none => if p a then some (0, a) else none

theorem lastMatch_mem {α : Type} {p : α → Bool} {l : List α} {i : Nat} {a : α}
    (h : lastMatch p l = some (i, a)) : a ∈ l ∧ p a = true := by
  induction l generalizing i with
  | nil => cases h
  | cons x xs ih =>
    cases hm : lastMatch p xs with
    | none =>
      simp only [lastMatch, hm] at h
      split at h
      · cases h; exact ⟨List.mem_cons_self _ _, ‹_›⟩
      · cases h
    | some jb =>
      obtain ⟨j, b⟩ := jb
      simp only [lastMatch, hm, Option.some.injEq, Prod.mk.injEq] at h
      obtain ⟨-, rfl⟩ := h
      exact (ih hm).imp (List.mem_cons_of_mem x) id

theorem lastMatch_eq_none {α : Type} {p : α → Bool} {l : List α} :
    lastMatch p l = none ↔ ∀ a ∈ l, p a = false := by
  induction l with
  | nil => simp [lastMatch]
  | cons x xs ih =>
    cases hm : lastMatch p xs with
    | none =>
      have hxs := ih.mp hm
      cases hx : p x
      · simpa [lastMatch, hm, hx] using hxs
      · simp [lastMatch, hm, hx]
    | some jb =>
      have hb := lastMatch_mem hm
      simp only [lastMatch, hm, reduceCtorEq, false_iff, not_forall]
      exact ⟨jb.2, List.mem_cons_of_mem x hb.1, by simp [hb.2]⟩

/-- **`lastMatch` finds the last match.** It returns `(i, a)` exactly when `a` stands at
position `i`, satisfies `p`, and no entry after it does. -/
theorem lastMatch_eq_some {α : Type} {p : α → Bool} {l : List α} {i : Nat} {a : α} :
    lastMatch p l = some (i, a) ↔
      ∃ pre post, l = pre ++ a :: post ∧ i = pre.length ∧ p a = true ∧ ∀ b ∈ post, p b = false := by
  induction l generalizing i a with
  | nil => simp [lastMatch]
  | cons x xs ih =>
    constructor
    · intro h
      cases hm : lastMatch p xs with
      | none =>
        simp only [lastMatch, hm] at h
        split at h
        · cases h; exact ⟨[], xs, rfl, rfl, ‹_›, lastMatch_eq_none.mp hm⟩
        · cases h
      | some jb =>
        obtain ⟨j, b⟩ := jb
        simp only [lastMatch, hm, Option.some.injEq, Prod.mk.injEq] at h
        obtain ⟨rfl, rfl⟩ := h
        obtain ⟨pre, post, rfl, rfl, hb, hpost⟩ := ih.mp hm
        exact ⟨x :: pre, post, rfl, rfl, hb, hpost⟩
    · rintro ⟨_ | ⟨y, pre⟩, post, hl, rfl, ha, hpost⟩
      · simp only [List.nil_append, List.cons.injEq] at hl
        obtain ⟨rfl, rfl⟩ := hl
        simp [lastMatch, lastMatch_eq_none.mpr hpost, ha]
      · simp only [List.cons_append, List.cons.injEq] at hl
        obtain ⟨rfl, rfl⟩ := hl
        simp [lastMatch, ih.mpr ⟨pre, post, rfl, rfl, ha, hpost⟩]

theorem lastMatch_getElem {α : Type} {p : α → Bool} {l : List α} {i : Nat} {a : α}
    (h : lastMatch p l = some (i, a)) : ∃ hi : i < l.length, l[i] = a := by
  obtain ⟨pre, post, rfl, rfl, -⟩ := lastMatch_eq_some.mp h
  exact ⟨by simp, by simp [List.getElem_append_right]⟩

/-! ### The roles of a shortname -/

/-- A shortname ending in `freq` or `key`: its relay is the pitch handle. -/
def isPitchName (s : String) : Bool :=
  decide ("freq".toList <:+ s.toList ∨ "key".toList <:+ s.toList)

/-- A shortname ending in `gain` or `velocity`: its relay is the gain handle. -/
def isGainName (s : String) : Bool :=
  decide ("gain".toList <:+ s.toList ∨ "velocity".toList <:+ s.toList)

/-- A shortname ending in `gate`: its relay is the gate handle. -/
def isGateName (s : String) : Bool :=
  decide ("gate".toList <:+ s.toList)

/-- `s.endswith(suffix)` is the suffix relation on the characters. -/
theorem pyEndsWith_eq_decide (s suffix : String) :
    pyEndsWith s suffix = decide (suffix.toList <:+ s.toList) :=
  Bool.eq_iff_iff.mpr (List.isSuffixOf_iff_suffix.trans decide_eq_true_iff.symm)

/-- Two suffixes of one list are suffixes of one another, so a list ends in at most one of two
lists of which neither ends the other. -/
theorem not_suffix_of_suffix {s a b : List Char} (ha : a <:+ s) (hab : ¬(a <:+ b ∨ b <:+ a)) :
    ¬b <:+ s :=
  fun hb => hab (List.suffix_or_suffix_of_suffix ha hb)

theorem isGainName_eq_false_of_pitch {s : String} (h : isPitchName s = true) :
    isGainName s = false ∧ isGateName s = false := by
  simp only [isPitchName, decide_eq_true_eq] at h
  simp only [isGainName, isGateName, decide_eq_false_iff_not, not_or]
  rcases h with h | h <;>
    exact ⟨⟨not_suffix_of_suffix h (by decide), not_suffix_of_suffix h (by decide)⟩,
      not_suffix_of_suffix h (by decide)⟩

theorem isGateName_eq_false_of_gain {s : String} (h : isGainName s = true) :
    isGateName s = false := by
  simp only [isGainName, decide_eq_true_eq] at h
  simp only [isGateName, decide_eq_false_iff_not]
  rcases h with h | h <;> exact not_suffix_of_suffix h (by decide)

/-- **The elif chain updates each accumulator on its own role.** -/
theorem analyse_eq (v : Voicing) (s : String) (k : Nat) :
    v.analyse s k =
      { pitch := if isPitchName s then some k else v.pitch,
        gain := if isGainName s then some k else v.gain,
        gate := if isGateName s then some k else v.gate,
        isFreq := if isPitchName s then decide ("freq".toList <:+ s.toList) else v.isFreq,
        isGain := if isGainName s then decide ("gain".toList <:+ s.toList) else v.isGain } := by
  simp only [Voicing.analyse, pyEndsWith_eq_decide]
  by_cases hp : isPitchName s
  · obtain ⟨hg, ht⟩ := isGainName_eq_false_of_pitch hp
    simp only [isPitchName, decide_eq_true_eq] at hp
    rcases hp with hp | hp <;> by_cases hf : "freq".toList <:+ s.toList <;>
      simp_all [isPitchName]
  · simp only [isPitchName, decide_eq_true_eq, not_or, Bool.not_eq_true] at hp
    by_cases hg : isGainName s
    · have ht := isGateName_eq_false_of_gain hg
      simp only [isGainName, decide_eq_true_eq] at hg
      rcases hg with hg | hg <;> by_cases hgn : "gain".toList <:+ s.toList <;>
        simp_all [isPitchName, isGainName]
    · simp only [isGainName, decide_eq_true_eq, not_or] at hg
      by_cases ht : isGateName s <;> simp_all [isPitchName, isGainName, isGateName]

/-! ### The accumulators after the loop -/

theorem relayIndex_cons_succ (midi test : Bool) (item : ItemInfo) (items : List ItemInfo)
    (base i : Nat) :
    relayIndex midi test (item :: items) base (i + 1) =
      relayIndex midi test items (base + (paramSubBoxes midi test item).length) i := by
  simp [relayIndex, Nat.add_assoc]

/-- **Last write wins.** With the analysis on, an accumulator that the analysis writes on
the role `role` (with `w`) ends up holding what the last parameter of that role wrote with the
id of its relay, and keeps its initial value when no parameter has the role. -/
theorem voicingFrom_field {V : Type} (proj : Voicing → V) (role : String → Bool)
    (w : String → Nat → V) (hw : ∀ v s k, proj (v.analyse s k) = if role s then w s k else proj v)
    (c : ParamContext) (hc : (c.midi && decide (0 < c.nvoices)) = true) (items : List ItemInfo)
    (n : Nat) (v : Voicing) :
    proj (voicingFrom c items n v) =
      match lastMatch (fun item => role item.shortname) items with
      | some (i, item) => w item.shortname (relayIndex c.midi c.test items n i)
      | none => proj v := by
  induction items generalizing n v with
  | nil => rfl
  | cons item items ih =>
    simp only [voicingFrom, hc, if_true, ih, lastMatch]
    cases lastMatch (fun item => role item.shortname) items with
    | some ib => simp [relayIndex_cons_succ]
    | none => by_cases hr : role item.shortname <;> simp [hw, hr, relayIndex]

/-! ### The polyphony subgraph of `add_rnbo_object` -/

/-- The subpatcher after the parameter loop: the `codebox~`, the audio boxes and the blocks of
the parameters, with their lines. -/
def loopSubpatcher (codeboxCode : String) (items : List ItemInfo) (midi test : Bool)
    (numInputs numOutputs : Nat) : Patcher SubBox :=
  let sub := addAudioBoxes ⟨[.codebox codeboxCode], []⟩ 0 numInputs numOutputs
  ⟨sub.boxes ++ (items.map (paramSubBoxes midi test)).flatten,
    sub.lines ++ paramsSubLines midi test 0 items sub.boxes.length⟩

/-- The parameter loop of `add_rnbo_object` leaves the subpatcher `loopSubpatcher`. -/
theorem addParams_loopSubpatcher {codeboxCode : String} {items : List ItemInfo}
    {midi test : Bool} {nvoices : Int} {rnbo numInputs numOutputs : Nat} {q : Patcher Box}
    {v : Voicing} {s : ParamState}
    (hs : addParams ⟨midi, nvoices, test, rnbo, 0⟩ items
      ⟨q, addAudioBoxes ⟨[.codebox codeboxCode], []⟩ 0 numInputs numOutputs, v⟩ = .ok s) :
    s.subPatch = loopSubpatcher codeboxCode items midi test numInputs numOutputs := by
  obtain ⟨-, -, hsb, hsl, -⟩ := addParams_ok hs
  rw [loopSubpatcher, ← hsb, ← hsl]

/-- The condition under which `add_rnbo_object` adds the polyphony subgraph, in terms of the
parameters: MIDI on, a positive voice count, and a pitch, a gain and a gate parameter. -/
def PolyphonyCondition (midi : Bool) (nvoices : Int) (items : List ItemInfo) : Prop :=
  midi = true ∧ 0 < nvoices ∧ (∃ item ∈ items, isPitchName item.shortname = true) ∧
    (∃ item ∈ items, isGainName item.shortname = true) ∧
    ∃ item ∈ items, isGateName item.shortname = true

instance (midi : Bool) (nvoices : Int) (items : List ItemInfo) :
    Decidable (PolyphonyCondition midi nvoices items) := by
  unfold PolyphonyCondition; infer_instance

theorem lastMatch_ne_none {p : ItemInfo → Bool} {items : List ItemInfo} :
    lastMatch p items ≠ none ↔ ∃ item ∈ items, p item = true := by
  simp [lastMatch_eq_none]

/-- **The decision after the loop, without the loop.** On the state the parameter loop leaves,
`add_rnbo_object` adds the polyphony subgraph exactly when the analysis is on and each role
has a last parameter, and wires it to their relays in the modes their suffixes select. -/
theorem polyphonyStep_eq (c : ParamContext) (items : List ItemInfo) (n : Nat) (s : ParamState)
    (hv : s.voicing = voicingFrom c items n Voicing.init) :
    polyphonyStep c.midi c.nvoices s =
      match c.midi && decide (0 < c.nvoices),
        lastMatch (fun item => isPitchName item.shortname) items,
        lastMatch (fun item => isGainName item.shortname) items,
        lastMatch (fun item => isGateName item.shortname) items with
      | true, some (ip, pitch), some (ig, gain), some (igt, _) =>
        addPolyphonyControl s.subPatch (relayIndex c.midi c.test items n ip)
          (relayIndex c.midi c.test items n ig) (relayIndex c.midi c.test items n igt)
          (decide ("freq".toList <:+ pitch.shortname.toList))
          (decide ("gain".toList <:+ gain.shortname.toList))
      | _, _, _, _ => s.subPatch := by
  cases hon : c.midi && decide (0 < c.nvoices)
  · simp [polyphonyStep, hon]
  · have field := fun {V : Type} (proj : Voicing → V) role w hw =>
      voicingFrom_field proj role w hw c hon items n Voicing.init
    have hp := field Voicing.pitch isPitchName (fun _ k => some k) fun v s k => by rw [analyse_eq]
    have hf := field Voicing.isFreq isPitchName (fun s _ => decide ("freq".toList <:+ s.toList))
      fun v s k => by rw [analyse_eq]
    have hg := field Voicing.gain isGainName (fun _ k => some k) fun v s k => by rw [analyse_eq]
    have hi := field Voicing.isGain isGainName (fun s _ => decide ("gain".toList <:+ s.toList))
      fun v s k => by rw [analyse_eq]
    have ht := field Voicing.gate isGateName (fun _ k => some k) fun v s k => by rw [analyse_eq]
    rw [← hv] at hp hf hg hi ht
    unfold polyphonyStep
    rw [hon, hp, hf, hg, hi, ht]
    generalize lastMatch (fun item => isPitchName item.shortname) items = mp
    generalize lastMatch (fun item => isGainName item.shortname) items = mg
    generalize lastMatch (fun item => isGateName item.shortname) items = mt
    rcases mp with _ | ⟨ip, pitch⟩ <;> rcases mg with _ | ⟨ig, gain⟩ <;>
      rcases mt with _ | ⟨igt, gate⟩ <;> rfl

theorem loopSubpatcher_relay (codeboxCode : String) (items : List ItemInfo) (midi test : Bool)
    (numInputs numOutputs : Nat) {i : Nat} (hi : i < items.length) :
    (loopSubpatcher codeboxCode items midi test numInputs numOutputs).boxes[
        relayIndex midi test items (1 + (audioBoxes numInputs numOutputs).length) i]? =
      some (.textbox [.sym "set", .sym (itemLabel test items[i])]) := by
  have := (paramRelay_wiring midi test items
    (.codebox codeboxCode :: audioBoxes numInputs numOutputs) [] hi).1
  simpa [loopSubpatcher, addAudioBoxes_boxes, Nat.add_comm] using this

/-- **The polyphony subgraph** of a unit placed by `add_rnbo_object` at `k` in `P`. The
subpatcher of its `rnbo~` box is the subpatcher of the parameter loop when the condition fails.
When it holds, the subgraph of `add_polyphony_control` follows (`polyphonyBoxes`,
`polyphonyLines`): its pitch, gain and gate edges end at the relays of the last pitch, gain and
gate parameter in document order, the pitch goes through `mtof` exactly when that pitch
parameter ends in `freq`, and the velocity goes through the scaling exactly when that gain
parameter ends in `gain`. -/
def PolyphonyWiring (codeboxCode : String) (items : List ItemInfo) (midi : Bool) (nvoices : Int)
    (test : Bool) (numInputs numOutputs : Nat) (P : Patcher Box) (k : Nat) : Prop :=
  ∃ r, P.boxes[k]? = some (.rnbo r) ∧
    (¬PolyphonyCondition midi nvoices items →
      r.subpatcher = loopSubpatcher codeboxCode items midi test numInputs numOutputs) ∧
    (PolyphonyCondition midi nvoices items →
      ∃ ip pitch ig gain igt gate,
        lastMatch (fun item => isPitchName item.shortname) items = some (ip, pitch) ∧
        lastMatch (fun item => isGainName item.shortname) items = some (ig, gain) ∧
        lastMatch (fun item => isGateName item.shortname) items = some (igt, gate) ∧
        let loop := loopSubpatcher codeboxCode items midi test numInputs numOutputs
        let relay := relayIndex midi test items (1 + (audioBoxes numInputs numOutputs).length)
        let isFreq := decide ("freq".toList <:+ pitch.shortname.toList)
        let isGain := decide ("gain".toList <:+ gain.shortname.toList)
        r.subpatcher =
          ⟨loop.boxes ++ polyphonyBoxes isFreq isGain,
            loop.lines ++ polyphonyLines loop.boxes.length (relay ip) (relay ig) (relay igt)
              isFreq isGain⟩ ∧
        loop.boxes[relay ip]? = some (.textbox [.sym "set", .sym (itemLabel test pitch)]) ∧
        loop.boxes[relay ig]? = some (.textbox [.sym "set", .sym (itemLabel test gain)]) ∧
        loop.boxes[relay igt]? = some (.textbox [.sym "set", .sym (itemLabel test gate)]))

/-- **The polyphony analysis is right**: `add_rnbo_object` builds the polyphony subgraph for
every item list, MIDI flag and voice count. -/
theorem addRnboObject_polyphony {patcher : Patcher Box} {dspName codeboxCode : String}
    {items : List ItemInfo} {midi : Bool} {nvoices : Int} {test : Bool}
    {numInputs numOutputs : Nat} {P : Patcher Box} {k : Nat}
    (h : addRnboObject patcher dspName codeboxCode items midi nvoices test numInputs numOutputs =
      .ok (P, k)) :
    PolyphonyWiring codeboxCode items midi nvoices test numInputs numOutputs P k := by
  obtain ⟨io, s, -, hs, rfl, hb, -⟩ := addRnboObject_ok h
  obtain ⟨-, -, -, -, hv⟩ := addParams_ok hs
  have hloop := addParams_loopSubpatcher hs
  have hlen : (addAudioBoxes ⟨[.codebox codeboxCode], []⟩ 0 numInputs numOutputs).boxes.length =
      1 + (audioBoxes numInputs numOutputs).length := by
    simp [addAudioBoxes_boxes, Nat.add_comm]
  rw [hlen] at hv
  have hstep := polyphonyStep_eq ⟨midi, nvoices, test, patcher.boxes.length, 0⟩ items _ s hv
  refine ⟨{ rnboRecord dspName midi nvoices io with subpatcher := polyphonyStep midi nvoices s },
    by rw [hb, getElem?_append_length, List.getElem?_cons_zero], fun hn => ?_, fun hc => ?_⟩
  · rw [← hloop, hstep]
    split
    · rename_i hon hp hg ht
      simp only [Bool.and_eq_true, decide_eq_true_eq] at hon
      exact absurd ⟨hon.1, hon.2, ⟨_, lastMatch_mem hp⟩, ⟨_, lastMatch_mem hg⟩,
        ⟨_, lastMatch_mem ht⟩⟩ hn
    · rfl
  · obtain ⟨rfl, hn, hp, hg, ht⟩ := hc
    obtain ⟨⟨ip, pitch⟩, hip⟩ := Option.ne_none_iff_exists'.mp (lastMatch_ne_none.mpr hp)
    obtain ⟨⟨ig, gain⟩, hig⟩ := Option.ne_none_iff_exists'.mp (lastMatch_ne_none.mpr hg)
    obtain ⟨⟨igt, gate⟩, higt⟩ := Option.ne_none_iff_exists'.mp (lastMatch_ne_none.mpr ht)
    obtain ⟨hip', rfl⟩ := lastMatch_getElem hip
    obtain ⟨hig', rfl⟩ := lastMatch_getElem hig
    obtain ⟨higt', rfl⟩ := lastMatch_getElem higt
    refine ⟨ip, _, ig, _, igt, _, hip, hig, higt, ?_, loopSubpatcher_relay _ _ _ _ _ _ hip',
      loopSubpatcher_relay _ _ _ _ _ _ hig', loopSubpatcher_relay _ _ _ _ _ _ higt'⟩
    simp only at hstep
    rw [hstep, decide_eq_true hn, hip, hig, higt]
    simp [addPolyphonyControl_eq, hloop]

/-- A voice with `freq`, `gain` and `gate` parameters, MIDI on and four voices: it meets the
condition, and its polyphony subgraph is built. -/
theorem addRnboObject_polyphony_voice :
    PolyphonyCondition true 4
        [⟨"freq", "hslider", 440, 20, 2000, 1, []⟩, ⟨"gain", "hslider", 0, 0, 1, 1, []⟩,
          ⟨"gate", "button", 0, 0, 1, 1, []⟩] ∧
      ∃ P k, addRnboObject .empty "voice" "out1 = 0;"
          [⟨"freq", "hslider", 440, 20, 2000, 1, []⟩, ⟨"gain", "hslider", 0, 0, 1, 1, []⟩,
            ⟨"gate", "button", 0, 0, 1, 1, []⟩] true 4 false 0 1 = .ok (P, k) ∧
        PolyphonyWiring "out1 = 0;"
          [⟨"freq", "hslider", 440, 20, 2000, 1, []⟩, ⟨"gain", "hslider", 0, 0, 1, 1, []⟩,
            ⟨"gate", "button", 0, 0, 1, 1, []⟩] true 4 false 0 1 P k :=
  ⟨by decide, _, _, rfl, addRnboObject_polyphony rfl⟩

end FaustRnbo
