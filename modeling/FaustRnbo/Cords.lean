import FaustRnbo.Codebox
import FaustRnbo.MidiObjects

/-!
# No Cord Is Drawn Twice

`add_line` appends a patch cord whatever the patcher already holds, so nothing in `py2max`
stops the script from drawing the same cord twice. This module shows that it never does: in
every patch `create_rnbo_patch` builds, the lines of the top-level patcher are pairwise
distinct, and so are the lines of the subpatcher of every `rnbo~` box.

The argument is one step lemma (`Patcher.Simple.extend`). Each step of the script appends a
block of boxes and a block of lines in which every line has an end at one of the boxes the
step has just added. The lines already there join boxes that were there before, so no new
line equals an old one, and it only remains to show that the lines of each block are
distinct. The effect block counts as one step from the patcher it is given: the adaptation
lines and the MIDI lines it adds after the effect unit all end at that unit.

## Main results

* `loopSubpatcher_simple`: the subpatcher the parameter loop leaves is simple.
* `PatchSimple.addRnboObject`, `PatchSimple.addEffect`: the steps that add a unit keep the
  invariant, in the top-level patcher and in the unit's subpatcher.
* `createRnboPatch_lines_nodup`: no line is drawn twice, at the top level or in a subpatcher.
-/

namespace FaustRnbo

/-! ### Simple patchers -/

/-- **A simple patcher**: every line joins two of its boxes, and no line is drawn twice. -/
structure Patcher.Simple {β : Type} (p : Patcher β) : Prop where
  closed : p.Closed
  nodup : p.lines.Nodup

namespace Patcher.Simple

variable {β : Type} {p p' : Patcher β}

theorem of_lines_nil (bs : List β) : (⟨bs, []⟩ : Patcher β).Simple :=
  ⟨fun _ hl => (by cases hl), List.nodup_nil⟩

/-- **The step lemma.** Appending boxes, and a block of distinct lines between boxes of the
result that each have an end at a new box, keeps a patcher simple. -/
theorem extend (h : p.Simple) {more : List β} {extra : List Line}
    (hb : p'.boxes = p.boxes ++ more) (hl : p'.lines = p.lines ++ extra) (hx : extra.Nodup)
    (hnew : ∀ l ∈ extra, p.boxes.length ≤ l.src ∨ p.boxes.length ≤ l.dst)
    (hc : ∀ l ∈ extra,
      l.src < p.boxes.length + more.length ∧ l.dst < p.boxes.length + more.length) :
    p'.Simple := by
  obtain ⟨boxes, lines⟩ := p'
  simp only at hb hl
  subst hb hl
  refine ⟨h.closed.append more hc, h.nodup.append hx fun l hold hextra => ?_⟩
  have := h.closed l hold
  have := hnew l hextra
  omega

end Patcher.Simple

/-! ### The subpatcher of a unit -/

section Unit

variable (midi test : Bool)

theorem addAudioBoxes_simple (codeboxCode : String) (numInputs numOutputs : Nat) :
    (addAudioBoxes ⟨[.codebox codeboxCode], []⟩ 0 numInputs numOutputs).Simple := by
  have key : ∀ l ∈ audioInLines numInputs ++ audioOutLines numInputs numOutputs,
      (1 ≤ l.src ∨ 1 ≤ l.dst) ∧ l.src < 1 + (max 1 numInputs + numOutputs) ∧
        l.dst < 1 + (max 1 numInputs + numOutputs) := by
    intro l hl
    rcases List.mem_append.mp hl with hl | hl
    · have := mem_audioInLines hl
      omega
    · have := mem_audioOutLines hl
      omega
  refine (Patcher.Simple.of_lines_nil [.codebox codeboxCode]).extend
    (addAudioBoxes_boxes _ _ _ _) (addAudioBoxes_lines _ _ _) ?_ (fun l hl => (key l hl).1)
    (fun l hl => by simpa [audioBoxes_length] using (key l hl).2)
  refine (audioInLines_nodup _).append (audioOutLines_nodup _ _) fun l hin hout => ?_
  have := mem_audioInLines hin
  have := mem_audioOutLines hout
  omega

theorem paramSubLines_nodup (item : ItemInfo) (n : Nat) :
    (paramSubLines midi item 0 n).Nodup := by
  cases midi <;> cases hs : midiSupported item.midi <;> simp [paramSubLines, midiChainLines, hs]
  omega

theorem paramSubLines_new (item : ItemInfo) (n : Nat) :
    ∀ l ∈ paramSubLines midi item 0 n, n ≤ l.src ∨ n ≤ l.dst := by
  cases midi <;> cases hs : midiSupported item.midi <;> simp [paramSubLines, midiChainLines, hs]
  omega

/-- **The run lemma of the parameter loop.** The blocks of the parameters, laid out after a
simple subpatcher holding the `codebox~`, leave it simple. -/
theorem paramsSubLines_simple :
    ∀ (items : List ItemInfo) {p : Patcher SubBox}, p.Simple → 0 < p.boxes.length →
      (⟨p.boxes ++ (items.map (paramSubBoxes midi test)).flatten,
        p.lines ++ paramsSubLines midi test 0 items p.boxes.length⟩ : Patcher SubBox).Simple
  | [], p, h, _ => by simpa [paramsSubLines] using h
  | item :: items, p, h, hp => by
    have h1 : (⟨p.boxes ++ paramSubBoxes midi test item,
        p.lines ++ paramSubLines midi item 0 p.boxes.length⟩ : Patcher SubBox).Simple :=
      h.extend rfl rfl (paramSubLines_nodup midi item _) (paramSubLines_new midi item _)
        (paramSubLines_closed midi test item hp)
    have := paramsSubLines_simple items h1 (by simp; omega)
    simpa [paramsSubLines, List.append_assoc] using this

/-- **The subpatcher after the parameter loop is simple.** -/
theorem loopSubpatcher_simple (codeboxCode : String) (items : List ItemInfo)
    (numInputs numOutputs : Nat) :
    (loopSubpatcher codeboxCode items midi test numInputs numOutputs).Simple :=
  paramsSubLines_simple midi test items (addAudioBoxes_simple codeboxCode numInputs numOutputs)
    (by simp [addAudioBoxes_boxes])

theorem polyphonyLines_nodup {n gain : Nat} (hg : gain < n) (pitch gate : Nat)
    (isFreq isGain : Bool) :
    (polyphonyLines n pitch gain gate isFreq isGain).Nodup := by
  cases isFreq <;> cases isGain <;> simp [polyphonyLines] <;> omega

/-- The polyphony step keeps the subpatcher simple: its lines start at the boxes it adds. -/
theorem polyphonyStep_simple {c : ParamContext} {s : ParamState} (hsub : SubState c s)
    (h : s.subPatch.Simple) (nvoices : Int) : (polyphonyStep midi nvoices s).Simple := by
  unfold polyphonyStep
  split
  · next pitch gain gate _ hp hg ht =>
    have hr : ∀ x, x ∈ s.voicing.relays → x < s.subPatch.boxes.length := hsub.relays_lt
    have hp := hr pitch (by simp [Voicing.relays, hp])
    have hg := hr gain (by simp [Voicing.relays, hg])
    have ht := hr gate (by simp [Voicing.relays, ht])
    rw [addPolyphonyControl_eq]
    exact h.extend rfl rfl (polyphonyLines_nodup hg _ _ _ _)
      (fun l hl => .inl (polyphonyLines_src l hl))
      (polyphonyLines_closed hp hg ht _ _)
  · exact h

end Unit

/-! ### The blocks of the top level -/

section Blocks

variable (test : Bool)

theorem paramTopLines_src_lt (item : ItemInfo) (rnbo n : Nat) :
    ∀ l ∈ paramTopLines item rnbo n, l.src < n + (paramTopBoxes test item).length := by
  unfold paramTopLines paramTopBoxes
  split <;> simp [*]

/-- The controls' lines start at the controls, in order, and end at a control or at the unit. -/
theorem paramsTopLines_lt (k : Nat) :
    ∀ (items : List ItemInfo) (n : Nat), ∀ l ∈ paramsTopLines test k items n,
      l.src < n + ((items.map (paramTopBoxes test)).flatten).length ∧
        (l.dst = k ∨ l.dst < n + ((items.map (paramTopBoxes test)).flatten).length)
  | [], _ => by simp [paramsTopLines]
  | item :: items, n => by
    simp only [paramsTopLines, List.mem_append, List.map_cons, List.flatten_cons,
      List.length_append]
    rintro l (hl | hl)
    · refine ⟨by have := paramTopLines_src_lt test item k n l hl; omega, ?_⟩
      unfold paramTopLines at hl
      split at hl
      · rcases List.mem_pair.mp hl with rfl | rfl <;> simp [paramTopBoxes, *]
        omega
      · simp [List.mem_singleton.mp hl]
    · have := paramsTopLines_lt k items _ l hl
      omega

theorem paramsTopLines_nodup (k : Nat) :
    ∀ (items : List ItemInfo) (n : Nat), (paramsTopLines test k items n).Nodup
  | [], _ => List.nodup_nil
  | item :: items, n => by
    refine List.Nodup.append ?_ (paramsTopLines_nodup k items _) fun l h₁ h₂ => ?_
    · unfold paramTopLines
      split <;> simp
    · have := paramTopLines_src_lt test item k n l h₁
      have := paramsTopLines_src test k items _ l h₂
      omega

theorem adaptationLines_nodup (dspRnbo effectRnbo dspNumOutputs effectNumInputs : Nat) :
    (adaptationLines dspRnbo effectRnbo dspNumOutputs effectNumInputs).Nodup := by
  refine List.Nodup.map (fun a b h => ?_) ?_
  · simp only [Line.mk.injEq, true_and, and_true] at h
    exact Prod.ext h.1 h.2
  · unfold specAdaptation
    split <;> simp [Prod.ext_iff]

theorem mem_adaptationLines {dspRnbo effectRnbo dspNumOutputs effectNumInputs : Nat} {l : Line}
    (h : l ∈ adaptationLines dspRnbo effectRnbo dspNumOutputs effectNumInputs) :
    l.src = dspRnbo ∧ l.dst = effectRnbo := by
  obtain ⟨q, -, rfl⟩ := List.mem_map.mp h
  exact ⟨rfl, rfl⟩

end Blocks

/-! ### The invariant of the patch -/

theorem connectMidi_lines_eq (p : Patcher Box) (rnbo midiIn midiOut : Nat) :
    ∃ a b, (connectMidi p rnbo midiIn midiOut).lines =
      p.lines ++ [⟨midiIn, 0, rnbo, a⟩, ⟨rnbo, b, midiOut, 0⟩] :=
  ⟨_, _, connectMidi_lines p rnbo midiIn midiOut⟩

/-- **The invariant of the patch**: the top-level patcher is simple, and so is the subpatcher of
every `rnbo~` box in it. -/
structure PatchSimple (p : Patcher Box) : Prop where
  top : p.Simple
  subpatchers : ∀ r, Box.rnbo r ∈ p.boxes → r.subpatcher.Simple

/-- What `add_rnbo_object` appends to the top level: the unit, whose subpatcher is simple, and
its controls, whose lines are `paramsTopLines`. -/
theorem addRnboObject_block {p p' : Patcher Box} {dspName codeboxCode : String}
    {items : List ItemInfo} {midi : Bool} {nvoices : Int} {test : Bool}
    {numInputs numOutputs k : Nat}
    (ha : addRnboObject p dspName codeboxCode items midi nvoices test numInputs numOutputs =
      .ok (p', k)) :
    k = p.boxes.length ∧ ∃ more, p'.boxes = p.boxes ++ more ∧
      more.length = 1 + ((items.map (paramTopBoxes test)).flatten).length ∧
      (∀ r, Box.rnbo r ∈ more → r.subpatcher.Simple) ∧
      p'.lines = p.lines ++ paramsTopLines test k items (k + 1) := by
  obtain ⟨io, s, -, hs, rfl, hb, hl⟩ := addRnboObject_ok ha
  have hsub := addParams_subState hs ⟨(addAudioBoxes_simple codeboxCode _ _).closed,
    by simp [addAudioBoxes_boxes], by simp [Voicing.relays, Voicing.init]⟩
  have hloop : s.subPatch.Simple := by
    rw [addParams_loopSubpatcher hs]
    exact loopSubpatcher_simple midi test codeboxCode items numInputs numOutputs
  refine ⟨rfl, _, hb, by simp [Nat.add_comm], fun r hr => ?_, hl⟩
  rcases List.mem_cons.mp hr with hr | hr
  · cases hr
    exact polyphonyStep_simple midi hsub hloop nvoices
  · obtain ⟨bs, hbs, hr⟩ := List.mem_flatten.mp hr
    obtain ⟨item, -, rfl⟩ := List.mem_map.mp hbs
    exact absurd (paramTopBoxes_rnboPorts test item _ hr) (by simp [Box.rnboPorts])

namespace PatchSimple

variable {p p' : Patcher Box}

theorem init : PatchSimple ⟨[.comment], []⟩ :=
  ⟨.of_lines_nil _, fun r hr => by simp at hr⟩

/-- **The step lemma** of the patch: a step that appends boxes whose subpatchers are simple,
and a block of distinct lines that each have an end at a new box, keeps the invariant. -/
theorem extend (h : PatchSimple p) {more : List Box} {extra : List Line}
    (hb : p'.boxes = p.boxes ++ more) (hl : p'.lines = p.lines ++ extra) (hx : extra.Nodup)
    (hnew : ∀ l ∈ extra, p.boxes.length ≤ l.src ∨ p.boxes.length ≤ l.dst)
    (hc : ∀ l ∈ extra,
      l.src < p.boxes.length + more.length ∧ l.dst < p.boxes.length + more.length)
    (hm : ∀ r, Box.rnbo r ∈ more → r.subpatcher.Simple) : PatchSimple p' where
  top := h.top.extend hb hl hx hnew hc
  subpatchers r hr := by
    rw [hb, List.mem_append] at hr
    exact hr.elim (h.subpatchers r) (hm r)

/-- A step that appends boxes with no `rnbo~` among them and lines that each start at a new
box keeps the invariant. -/
theorem extend_plain (h : PatchSimple p) {more : List Box} {extra : List Line}
    (hb : p'.boxes = p.boxes ++ more) (hl : p'.lines = p.lines ++ extra) (hx : extra.Nodup)
    (hnew : ∀ l ∈ extra, p.boxes.length ≤ l.src ∨ p.boxes.length ≤ l.dst)
    (hc : ∀ l ∈ extra,
      l.src < p.boxes.length + more.length ∧ l.dst < p.boxes.length + more.length)
    (hm : ∀ b ∈ more, b.rnboPorts = none) : PatchSimple p' :=
  h.extend hb hl hx hnew hc fun _ hr => absurd (hm _ hr) (by simp [Box.rnboPorts])

/-- **`add_rnbo_object` keeps the invariant.** -/
theorem addRnboObject (h : PatchSimple p) {dspName codeboxCode : String}
    {items : List ItemInfo} {midi : Bool} {nvoices : Int} {test : Bool}
    {numInputs numOutputs k : Nat}
    (ha : addRnboObject p dspName codeboxCode items midi nvoices test numInputs numOutputs =
      .ok (p', k)) : PatchSimple p' := by
  obtain ⟨rfl, more, hb, hlen, hm, hl⟩ := addRnboObject_block ha
  refine h.extend hb hl (paramsTopLines_nodup test _ items _)
    (fun l hl => .inl (by have := paramsTopLines_src test _ items _ l hl; omega))
    (fun l hl => ?_) hm
  have := paramsTopLines_lt test _ items _ l hl
  omega

/-- The MIDI block keeps the invariant: its two lines end at `midiin` and `midiout`. -/
theorem addMidiObjects (h : PatchSimple p) {k : Nat} (hk : k < p.boxes.length) (midi : Bool) :
    PatchSimple (FaustRnbo.addMidiObjects p k midi).1 := by
  cases midi
  · exact h
  · have hb : (FaustRnbo.addMidiObjects p k true).1.boxes =
        p.boxes ++ [.plain [.sym "midiin"], .plain [.sym "midiout"]] := by
      simp [addMidiObjects_boxes]
    refine h.extend_plain hb (connectMidi_lines _ _ _ _) ?_ ?_ ?_
      (by simp [Box.plain, Box.rnboPorts])
    · simp
      omega
    · simp
    · simp
      omega

/-- **The effect block keeps the invariant.** The lines it adds after the effect unit, from
the DSP unit and from and to the MIDI objects, all end at the effect unit, and the unit's
id is a box of the result. -/
theorem addEffect (h : PatchSimple p) {dspRnbo dspNumOutputs : Nat} {midi : Bool}
    {midiBoxes : Option (Nat × Nat)} {effect : Option EffectUnit} {effectRnbo : Option Nat}
    (hd : dspRnbo < p.boxes.length)
    (hm : ∀ midiIn midiOut, midiBoxes = some (midiIn, midiOut) →
      dspRnbo ≠ midiIn ∧ midiIn < p.boxes.length ∧ midiOut < p.boxes.length)
    (ha : FaustRnbo.addEffect p dspRnbo dspNumOutputs midi midiBoxes effect =
      .ok (p', effectRnbo)) :
    PatchSimple p' ∧ ∀ k, effectRnbo = some k → k < p'.boxes.length := by
  cases effect with
  | none =>
    simp only [FaustRnbo.addEffect, pure, Except.pure, Except.ok.injEq, Prod.mk.injEq] at ha
    obtain ⟨rfl, rfl⟩ := ha
    exact ⟨h, fun k hk => by cases hk⟩
  | some e =>
    simp only [FaustRnbo.addEffect, bind, except_bind_eq_ok, Prod.exists, pure, Except.pure,
      Except.ok.injEq, Prod.mk.injEq] at ha
    obtain ⟨p1, k, ha, rfl, rfl⟩ := ha
    obtain ⟨rfl, more, hb, hlen, hsub, hl⟩ := addRnboObject_block ha
    have hk : p.boxes.length < p1.boxes.length := by simp [hb, hlen]
    -- the block after the unit: its controls' lines, which start after it, and the adaptation
    -- lines from the DSP unit into it
    have hl' : (connectDspEffect p1 dspRnbo p.boxes.length dspNumOutputs e.numInputs).lines =
        p.lines ++ (paramsTopLines false p.boxes.length e.itemsInfoList (p.boxes.length + 1) ++
          adaptationLines dspRnbo p.boxes.length dspNumOutputs e.numInputs) := by
      rw [connectDspEffect_eq, hl]
      simp only [List.append_assoc]
    have hblock : ∀ l ∈ paramsTopLines false p.boxes.length e.itemsInfoList
        (p.boxes.length + 1) ++ adaptationLines dspRnbo p.boxes.length dspNumOutputs e.numInputs,
        (l.src = dspRnbo ∧ l.dst = p.boxes.length ∨ p.boxes.length + 1 ≤ l.src) ∧
          l.src < p.boxes.length + more.length ∧ l.dst < p.boxes.length + more.length := by
      intro l hl
      rcases List.mem_append.mp hl with hl | hl
      · have := paramsTopLines_src false _ _ _ l hl
        have := paramsTopLines_lt false _ _ _ l hl
        omega
      · have := mem_adaptationLines hl
        omega
    have hnodup := (paramsTopLines_nodup false p.boxes.length e.itemsInfoList
      (p.boxes.length + 1)).append (adaptationLines_nodup dspRnbo p.boxes.length dspNumOutputs
        e.numInputs) fun l h₁ h₂ => by
      have := paramsTopLines_src false _ _ _ l h₁
      have := (mem_adaptationLines h₂).1
      omega
    refine ⟨?_, fun k' hk' => by cases hk'; split <;> simpa using hk⟩
    split
    · next midiIn midiOut =>
      -- the two MIDI lines also have an end at the unit
      obtain ⟨hne, hin, hout⟩ := hm midiIn midiOut rfl
      obtain ⟨a, b, hml⟩ := connectMidi_lines_eq
        (connectDspEffect p1 dspRnbo p.boxes.length dspNumOutputs e.numInputs)
        p.boxes.length midiIn midiOut
      refine h.extend (by simp [hb]) (by rw [hml, hl', List.append_assoc])
        (hnodup.append (by simp; omega) fun l h₁ h₂ => ?_) (fun l hl => ?_) (fun l hl => ?_)
        hsub
      · have := hblock l h₁
        simp only [List.mem_cons, List.mem_singleton, List.not_mem_nil, or_false] at h₂
        rcases h₂ with rfl | rfl <;> dsimp only at this <;> omega
      all_goals
        rcases List.mem_append.mp hl with hl | hl
        · have := hblock l hl
          omega
        simp only [List.mem_cons, List.mem_singleton, List.not_mem_nil, or_false] at hl
        rcases hl with rfl | rfl <;> dsimp only <;> omega
    · refine h.extend (by simp [hb]) hl' hnodup (fun l hl => ?_) (fun l hl => (hblock l hl).2)
        hsub
      have := hblock l hl
      omega

theorem addCompileTest (h : PatchSimple p) {rnbo : Nat} (hk : rnbo < p.boxes.length)
    (exportPath cppFilename : String) :
    PatchSimple (FaustRnbo.addCompileTest p rnbo exportPath cppFilename) := by
  rw [addCompileTest_eq p hk]
  refine h.extend_plain rfl rfl ?_ ?_ ?_ (by simp [compileTestBoxes, Box.plain, Box.rnboPorts])
  · simp [compileTestLines]
    omega
  · simp only [compileTestLines, List.forall_mem_cons, List.not_mem_nil, false_implies,
      implies_true, and_true]
    omega
  · simp only [compileTestLines, List.forall_mem_cons, List.not_mem_nil, false_implies,
      implies_true, and_true, compileTestBoxes, List.length_cons, List.length_nil]
    omega

theorem createAudioOutput (h : PatchSimple p) {rnbo : Nat} (hk : rnbo < p.boxes.length)
    (numOutputs : Nat) : PatchSimple (FaustRnbo.createAudioOutput p rnbo numOutputs) := by
  rw [createAudioOutput_eq]
  refine h.extend_plain rfl rfl ?_ ?_ ?_ (by simp [Box.plain, Box.rnboPorts])
  · refine List.nodup_cons.2 ⟨by simp; omega, ?_⟩
    exact (List.nodup_range _).map fun i j h => by simpa using congrArg Line.outlet h
  · simp
  · simp
    omega

theorem addAudioOutput (h : PatchSimple p) {dspRnbo : Nat} (hd : dspRnbo < p.boxes.length)
    (dspNumOutputs : Nat) (effect : Option EffectUnit) {effectRnbo : Option Nat}
    (he : ∀ k, effectRnbo = some k → k < p.boxes.length) :
    PatchSimple (FaustRnbo.addAudioOutput p dspRnbo dspNumOutputs effect effectRnbo) := by
  unfold FaustRnbo.addAudioOutput
  split
  · next e k => exact h.createAudioOutput (he k rfl) _
  · exact h.createAudioOutput hd _

theorem createAudioInput (h : PatchSimple p) {rnbo : Nat} (hk : rnbo < p.boxes.length)
    (numInputs : Nat) : PatchSimple (FaustRnbo.createAudioInput p rnbo numInputs) := by
  rw [createAudioInput_eq]
  refine h.extend_plain rfl rfl ?_ ?_ ?_ (by simp [Box.rnboPorts])
  · exact (List.nodup_range _).map fun i j h => by simpa using congrArg Line.outlet h
  · simp
  · simp
    omega

end PatchSimple

/-! ### The whole patch -/

/-- The MIDI block returns the ids of the two boxes it adds, after the unit it connects. -/
theorem addMidiObjects_ids {p : Patcher Box} {k : Nat} (hk : k < p.boxes.length) (midi : Bool) :
    ∀ midiIn midiOut, (addMidiObjects p k midi).2 = some (midiIn, midiOut) →
      k ≠ midiIn ∧ midiIn < (addMidiObjects p k midi).1.boxes.length ∧
        midiOut < (addMidiObjects p k midi).1.boxes.length := by
  intro midiIn midiOut h
  cases midi
  · cases h
  · simp only [addMidiObjects, if_true, Patcher.addBox_id, Patcher.addBox_boxes,
      Option.some.injEq, Prod.mk.injEq] at h
    obtain ⟨rfl, rfl⟩ := h
    simp [addMidiObjects_boxes]
    omega

/-- **No cord is drawn twice.** In every patch `create_rnbo_patch` builds without raising, the
lines of the top-level patcher are pairwise distinct, and so are the lines of the subpatcher of
every `rnbo~` box: no step of the script, and no iteration of its loops, draws a cord that is
already there. -/
theorem createRnboPatch_lines_nodup {dspName exportPath cppFilename dspCodeboxCode : String}
    {dspItemsInfoList : List ItemInfo} {dspNumInputs dspNumOutputs : Nat} {midi : Bool}
    {nvoices : Int} {effect : Option EffectUnit} {compile test : Bool} {P : Patcher Box}
    (h : createRnboPatch dspName exportPath cppFilename dspCodeboxCode dspItemsInfoList
      dspNumInputs dspNumOutputs midi nvoices effect compile test = .ok P) :
    P.lines.Nodup ∧ ∀ r, Box.rnbo r ∈ P.boxes → r.subpatcher.lines.Nodup := by
  obtain ⟨p1, k1, h1, p2, eff, h2, rfl⟩ := createRnboPatch_eq_ok.mp h
  obtain ⟨rfl, more, hb1, hlen1, -, -⟩ := addRnboObject_block h1
  have hk1 : 1 < p1.boxes.length := by simp [hb1, hlen1]
  -- the DSP unit, the MIDI objects and the effect block
  have hmid : p1.boxes <+: (addMidiObjects p1 1 midi).1.boxes := by
    rw [addMidiObjects_boxes]
    exact List.prefix_append _ _
  obtain ⟨s3, heff⟩ := ((PatchSimple.init.addRnboObject h1).addMidiObjects hk1 midi).addEffect
    (Nat.lt_of_lt_of_le hk1 hmid.length_le) (addMidiObjects_ids hk1 midi) h2
  have hk2 : 1 < p2.boxes.length :=
    Nat.lt_of_lt_of_le hk1 (hmid.trans (addEffect_box h2).1).length_le
  -- the compile machinery and the audio drivers
  have hc : p2.boxes <+: (if compile then addCompileTest p2 1 exportPath cppFilename
      else p2).boxes := by
    split <;> simp [addCompileTest_boxes]
  have s4 : PatchSimple (if compile then addCompileTest p2 1 exportPath cppFilename else p2) := by
    split
    · exact s3.addCompileTest hk2 _ _
    · exact s3
  have s5 := s4.addAudioOutput (Nat.lt_of_lt_of_le hk2 hc.length_le) dspNumOutputs
    (EffectUnit.added effect) fun k hk => Nat.lt_of_lt_of_le (heff k hk) hc.length_le
  have s6 : PatchSimple (if 0 < dspNumInputs then createAudioInput (addAudioOutput
      (if compile then addCompileTest p2 1 exportPath cppFilename else p2) 1 dspNumOutputs
      (EffectUnit.added effect) eff) 1 dspNumInputs
    else addAudioOutput (if compile then addCompileTest p2 1 exportPath cppFilename else p2) 1
      dspNumOutputs (EffectUnit.added effect) eff) := by
    split
    · exact s5.createAudioInput (Nat.lt_of_lt_of_le hk2 (hc.trans
        (addAudioOutput_boxes_extend _ _ _ _ _)).length_le) _
    · exact s5
  exact ⟨s6.top.nodup, fun r hr => (s6.subpatchers r hr).nodup⟩

/-- A MIDI synth with a gate button and a frequency slider on controller 1, and an effect: no
cord drawn twice. -/
theorem createRnboPatch_lines_nodup_synth :
    ∃ P, createRnboPatch "synth" "export" "synth.cpp" "out1 = in1;"
        [⟨"gate", "button", 0, 0, 1, 1, []⟩, ⟨"freq", "hslider", 440, 20, 2000, 1, ["ctrl", "1"]⟩]
        0 2 true 4 (some ⟨"out1 = in1;", [], 2, 2⟩) true false = .ok P ∧
      (P.lines.Nodup ∧ ∀ r, Box.rnbo r ∈ P.boxes → r.subpatcher.lines.Nodup) := by
  obtain ⟨P, hP⟩ : ∃ P, createRnboPatch "synth" "export" "synth.cpp" "out1 = in1;"
      [⟨"gate", "button", 0, 0, 1, 1, []⟩, ⟨"freq", "hslider", 440, 20, 2000, 1, ["ctrl", "1"]⟩]
      0 2 true 4 (some ⟨"out1 = in1;", [], 2, 2⟩) true false = .ok P := ⟨_, rfl⟩
  exact ⟨P, hP, createRnboPatch_lines_nodup hP⟩

end FaustRnbo
