import Mathlib.Data.List.FinRange
import FaustRnbo.Drivers

/-!
# The Interface of the `codebox~`

In the subpatcher of every unit the `codebox~` (box 0) holds the Faust-generated code, and the
rest of the subpatcher talks to it through lines only. This module computes those lines exactly.
Into the `codebox~` go, in this order, the audio inputs (`in~ i+1` into inlet `i`, or the
`in~ 1` placeholder into inlet 0 for a unit without inputs) and then the relay `set L` of every
parameter, into inlet 0, one line each in parameter order. Out of the `codebox~` go the audio
outputs (outlet `i` into `out~ i+1`) and then, with MIDI on, outlet 0 into the output scaling of
every parameter that has a MIDI chain. Nothing else touches the `codebox~`: not the `param`
boxes, not the rest of the MIDI chains, not the polyphony subgraph.

The subpatcher is built by three phases, and its lines at box 0 are the filters of the lines of
each phase (`List.filter_append`): the audio loops of `add_rnbo_object` (`addAudioBoxes_lines`),
the parameter loop (`paramsSubLines_into`, `paramsSubLines_from`, by induction on the items),
and the polyphony step, whose lines join boxes after the `codebox~` (`polyphonyLines_avoid`).

## Main results

* `loopSubpatcher_codebox`: the interface of the subpatcher the parameter loop leaves.
* `addRnboObject_codebox`: the polyphony step keeps it, so every unit `add_rnbo_object` places
  has it.
* `createRnboPatch_codebox`: in every patch `create_rnbo_patch` builds, the DSP unit and the
  effect unit have it, each with its own code, parameters and channels.
-/

namespace FaustRnbo

/-! ### The interface -/

/-- The lines from the audio input boxes into the `codebox~`: the `in~ 1` placeholder (box 1)
into inlet 0 for a unit without inputs, else `in~ i+1` (box `1 + i`) into inlet `i`. -/
def audioInLines (numInputs : Nat) : List Line :=
  if numInputs = 0 then [⟨1, 0, 0, 0⟩] else (List.range numInputs).map fun i => ⟨1 + i, 0, 0, i⟩

/-- The lines from the `codebox~` into the audio output boxes: outlet `i` into `out~ i+1`,
placed after the input boxes. -/
def audioOutLines (numInputs numOutputs : Nat) : List Line :=
  (List.range numOutputs).map fun i => ⟨0, i, 1 + max 1 numInputs + i, 0⟩

/-- **The interface of the `codebox~`** holding `codeboxCode` in a unit's subpatcher `sub`, for
the parameters `items`. The subpatcher starts with the `codebox~` and the audio boxes. The lines
into the `codebox~` are the audio inputs' and then one from the relay of each parameter, into
inlet 0. The lines out of it are the audio outputs' and then, for each parameter with a MIDI
chain, one from outlet 0 into the chain's output scaling, the fifth box after the relay. -/
def CodeboxInterface (codeboxCode : String) (items : List ItemInfo) (midi test : Bool)
    (numInputs numOutputs : Nat) (sub : Patcher SubBox) : Prop :=
  let relay := relayIndex midi test items (1 + (audioBoxes numInputs numOutputs).length)
  (.codebox codeboxCode :: audioBoxes numInputs numOutputs) <+: sub.boxes ∧
    sub.linesInto 0 = audioInLines numInputs ++
      (List.finRange items.length).map (fun i : Fin items.length => ⟨relay i, 0, 0, 0⟩) ∧
    sub.linesFrom 0 = audioOutLines numInputs numOutputs ++
      ((List.finRange items.length).filter fun i => midi && midiSupported items[i].midi).map
        fun i : Fin items.length => ⟨0, 0, relay i + 5, 0⟩

/-! ### The audio loops -/

theorem addInputs_lines (subPatch : Patcher SubBox) (codebox n : Nat) :
    (addInputs subPatch codebox n).lines = subPatch.lines ++
      (List.range n).map fun i => (⟨subPatch.boxes.length + i, 0, codebox, i⟩ : Line) := by
  induction n with
  | zero => simp [addInputs]
  | succ n ih =>
    have hb := addInputs_boxes subPatch codebox n
    simp only [addInputs, List.range_succ, List.foldl_append, Patcher.addBox_id] at ih hb ⊢
    simp [ih, hb, Nat.add_comm]

theorem addOutputs_lines (subPatch : Patcher SubBox) (codebox n : Nat) :
    (addOutputs subPatch codebox n).lines = subPatch.lines ++
      (List.range n).map fun i => (⟨codebox, i, subPatch.boxes.length + i, 0⟩ : Line) := by
  induction n with
  | zero => simp [addOutputs]
  | succ n ih =>
    have hb := addOutputs_boxes subPatch codebox n
    simp only [addOutputs, List.range_succ, List.foldl_append, Patcher.addBox_id] at ih hb ⊢
    simp [ih, hb, Nat.add_comm]

/-- The audio loops of `add_rnbo_object` draw the audio lines of the interface. -/
theorem addAudioBoxes_lines (codeboxCode : String) (numInputs numOutputs : Nat) :
    (addAudioBoxes ⟨[.codebox codeboxCode], []⟩ 0 numInputs numOutputs).lines =
      audioInLines numInputs ++ audioOutLines numInputs numOutputs := by
  by_cases h : numInputs = 0
  · simp [addAudioBoxes, addInputs_lines, addOutputs_lines, addInputs_boxes, audioInLines,
      audioOutLines, h, Patcher.addBox, Patcher.addLine]
  · have hmax : max 1 numInputs = numInputs := by omega
    simp [addAudioBoxes, addInputs_lines, addOutputs_lines, addInputs_boxes, audioInLines,
      audioOutLines, h, hmax, Nat.add_comm]

theorem audioBoxes_length (numInputs numOutputs : Nat) :
    (audioBoxes numInputs numOutputs).length = max 1 numInputs + numOutputs := by
  by_cases h : numInputs = 0 <;> simp [audioBoxes, h] <;> omega

/-- An audio input line starts at an input box and ends at inlet `src - 1` of the `codebox~`. -/
theorem mem_audioInLines {numInputs : Nat} {l : Line} (h : l ∈ audioInLines numInputs) :
    l.dst = 0 ∧ 1 ≤ l.src ∧ l.src ≤ max 1 numInputs ∧ l.inlet + 1 = l.src := by
  unfold audioInLines at h
  split at h
  · simp only [List.mem_singleton] at h
    subst h
    simp
  · obtain ⟨i, hi, rfl⟩ := List.mem_map.mp h
    simp only [List.mem_range] at hi
    dsimp only
    omega

/-- An audio output line starts at outlet `i` of the `codebox~` and ends at the `i`-th output
box. -/
theorem mem_audioOutLines {numInputs numOutputs : Nat} {l : Line}
    (h : l ∈ audioOutLines numInputs numOutputs) :
    l.src = 0 ∧ l.dst = 1 + max 1 numInputs + l.outlet ∧ l.outlet < numOutputs := by
  obtain ⟨i, hi, rfl⟩ := List.mem_map.mp h
  simpa using hi

theorem audioInLines_nodup (numInputs : Nat) : (audioInLines numInputs).Nodup := by
  unfold audioInLines
  split
  · simp
  · exact (List.nodup_range _).map fun i j h => by simpa using congrArg Line.inlet h

theorem audioOutLines_nodup (numInputs numOutputs : Nat) :
    (audioOutLines numInputs numOutputs).Nodup :=
  (List.nodup_range _).map fun i j h => by simpa using congrArg Line.outlet h

@[simp] theorem audioInLines_into (numInputs : Nat) :
    (audioInLines numInputs).filter (fun l => l.dst == 0) = audioInLines numInputs := by
  unfold audioInLines
  split <;> simp [List.filter_map, Function.comp_def]

@[simp] theorem audioInLines_from (numInputs : Nat) :
    (audioInLines numInputs).filter (fun l => l.src == 0) = [] := by
  unfold audioInLines
  split <;> simp [List.filter_map, Function.comp_def]

@[simp] theorem audioOutLines_into (numInputs numOutputs : Nat) :
    (audioOutLines numInputs numOutputs).filter (fun l => l.dst == 0) = [] := by
  simp [audioOutLines, List.filter_map, Function.comp_def]

@[simp] theorem audioOutLines_from (numInputs numOutputs : Nat) :
    (audioOutLines numInputs numOutputs).filter (fun l => l.src == 0) =
      audioOutLines numInputs numOutputs := by
  simp [audioOutLines, List.filter_map, Function.comp_def]

/-! ### The parameter loop -/

section Loop

variable (midi test : Bool)

/-- One parameter draws one line into the `codebox~`, from its relay. -/
theorem paramSubLines_into (item : ItemInfo) {n : Nat} (hn : 0 < n) :
    (paramSubLines midi item 0 n).filter (fun l => l.dst == 0) = [⟨n, 0, 0, 0⟩] := by
  cases midi <;> cases hs : midiSupported item.midi <;>
    simp [paramSubLines, midiChainLines, Nat.pos_iff_ne_zero.mp hn, hs]

/-- One parameter draws one line out of the `codebox~` exactly when it has a MIDI chain: into
the chain's output scaling. -/
theorem paramSubLines_from (item : ItemInfo) {n : Nat} (hn : 0 < n) :
    (paramSubLines midi item 0 n).filter (fun l => l.src == 0) =
      if midi && midiSupported item.midi then [⟨0, 0, n + 5, 0⟩] else [] := by
  cases midi <;> cases hs : midiSupported item.midi <;>
    simp [paramSubLines, midiChainLines, Nat.pos_iff_ne_zero.mp hn, hs]

/-- **The run lemma, into the `codebox~`.** The loop's lines into the `codebox~` are one from
the relay of each parameter, in order. -/
theorem paramsSubLines_into :
    ∀ (items : List ItemInfo) {n : Nat}, 0 < n →
      (paramsSubLines midi test 0 items n).filter (fun l => l.dst == 0) =
        (List.finRange items.length).map fun i => ⟨relayIndex midi test items n i, 0, 0, 0⟩
  | [], _, _ => by simp [paramsSubLines]
  | item :: items, n, hn => by
    rw [paramsSubLines, List.filter_append, paramSubLines_into midi item hn,
      paramsSubLines_into items (by omega), List.length_cons, List.finRange_succ]
    simp [relayIndex_cons_succ, relayIndex, Nat.add_assoc]

/-- **The run lemma, out of the `codebox~`.** The loop's lines out of the `codebox~` are one
into the output scaling of each parameter with a MIDI chain, in order. -/
theorem paramsSubLines_from :
    ∀ (items : List ItemInfo) {n : Nat}, 0 < n →
      (paramsSubLines midi test 0 items n).filter (fun l => l.src == 0) =
        ((List.finRange items.length).filter fun i => midi && midiSupported items[i].midi).map
          fun i => ⟨0, 0, relayIndex midi test items n i + 5, 0⟩
  | [], _, _ => by simp [paramsSubLines]
  | item :: items, n, hn => by
    have hfin : List.finRange (item :: items).length =
        0 :: (List.finRange items.length).map Fin.succ := List.finRange_succ _
    rw [paramsSubLines, List.filter_append, paramSubLines_from midi item hn,
      paramsSubLines_from items (by omega), hfin]
    cases hs : midi && midiSupported item.midi <;>
      simp [List.filter_cons, List.filter_map, Function.comp_def, relayIndex_cons_succ,
        relayIndex, hs, Nat.add_assoc]

end Loop

/-! ### The interface of every unit -/

section Unit

variable {codeboxCode : String} {items : List ItemInfo} {midi test : Bool}
  {numInputs numOutputs : Nat}

/-- Boxes added after the interface, with lines that neither start nor end at box 0, keep it. -/
theorem CodeboxInterface.append {sub : Patcher SubBox}
    (h : CodeboxInterface codeboxCode items midi test numInputs numOutputs sub) (more : List SubBox)
    {extra : List Line} (hin : extra.filter (fun l => l.dst == 0) = [])
    (hout : extra.filter (fun l => l.src == 0) = []) :
    CodeboxInterface codeboxCode items midi test numInputs numOutputs
      ⟨sub.boxes ++ more, sub.lines ++ extra⟩ := by
  obtain ⟨hb, hi, ho⟩ := h
  exact ⟨hb.trans (List.prefix_append _ _),
    by simpa [Patcher.linesInto, List.filter_append, hin] using hi,
    by simpa [Patcher.linesFrom, List.filter_append, hout] using ho⟩

/-- **The interface after the parameter loop.** -/
theorem loopSubpatcher_codebox (codeboxCode : String) (items : List ItemInfo) (midi test : Bool)
    (numInputs numOutputs : Nat) :
    CodeboxInterface codeboxCode items midi test numInputs numOutputs
      (loopSubpatcher codeboxCode items midi test numInputs numOutputs) := by
  have hlen : (addAudioBoxes ⟨[.codebox codeboxCode], []⟩ 0 numInputs numOutputs).boxes.length =
      1 + (audioBoxes numInputs numOutputs).length := by
    simp [addAudioBoxes_boxes, Nat.add_comm]
  refine ⟨⟨(items.map (paramSubBoxes midi test)).flatten,
    by simp [loopSubpatcher, addAudioBoxes_boxes]⟩, ?_, ?_⟩
  · rw [Patcher.linesInto, loopSubpatcher, List.filter_append, addAudioBoxes_lines, hlen,
      paramsSubLines_into midi test items (by omega)]
    simp
  · rw [Patcher.linesFrom, loopSubpatcher, List.filter_append, addAudioBoxes_lines, hlen,
      paramsSubLines_from midi test items (by omega)]
    simp

theorem le_relayIndex (items : List ItemInfo) (base i : Nat) :
    base ≤ relayIndex midi test items base i :=
  Nat.le_add_right _ _

/-- The polyphony subgraph joins boxes after the `codebox~`: none of its lines starts or ends
at box 0. -/
theorem polyphonyLines_avoid {n pitch gain gate : Nat} (hn : 0 < n) (hp : 0 < pitch)
    (hg : 0 < gain) (ht : 0 < gate) (isFreq isGain : Bool) :
    (polyphonyLines n pitch gain gate isFreq isGain).filter (fun l => l.dst == 0) = [] ∧
      (polyphonyLines n pitch gain gate isFreq isGain).filter (fun l => l.src == 0) = [] := by
  cases isFreq <;> cases isGain <;>
    simp [polyphonyLines, Nat.pos_iff_ne_zero.mp hn, Nat.pos_iff_ne_zero.mp hp,
      Nat.pos_iff_ne_zero.mp hg, Nat.pos_iff_ne_zero.mp ht]

/-- **The polyphony step keeps the interface**: its lines end at relays of the loop, which
come after the `codebox~`. -/
theorem polyphonyStep_codebox {c : ParamContext} {n : Nat} {s : ParamState}
    (hv : s.voicing = voicingFrom c items n Voicing.init) (hn : 0 < n)
    (h : CodeboxInterface codeboxCode items midi test numInputs numOutputs s.subPatch) :
    CodeboxInterface codeboxCode items midi test numInputs numOutputs
      (polyphonyStep c.midi c.nvoices s) := by
  have hs : 0 < s.subPatch.boxes.length := Nat.lt_of_lt_of_le (Nat.succ_pos _) h.1.length_le
  have hr : ∀ i, 0 < relayIndex c.midi c.test items n i :=
    fun i => Nat.lt_of_lt_of_le hn (le_relayIndex items n i)
  rw [polyphonyStep_eq c items n s hv]
  split
  · rw [addPolyphonyControl_eq]
    obtain ⟨hin, hout⟩ := polyphonyLines_avoid hs (hr _) (hr _) (hr _) _ _
    exact h.append _ hin hout
  · exact h

/-- **Every unit has the interface**: the `rnbo~` box `add_rnbo_object` places has it in its
subpatcher, polyphony subgraph included. -/
theorem addRnboObject_codebox {patcher P : Patcher Box} {dspName : String} {nvoices : Int}
    {k : Nat}
    (h : addRnboObject patcher dspName codeboxCode items midi nvoices test numInputs numOutputs =
      .ok (P, k)) :
    ∃ r, P.boxes[k]? = some (.rnbo r) ∧
      CodeboxInterface codeboxCode items midi test numInputs numOutputs r.subpatcher := by
  obtain ⟨io, s, -, hs, rfl, hb, -⟩ := addRnboObject_ok h
  obtain ⟨-, -, -, -, hv⟩ := addParams_ok hs
  refine ⟨_, by rw [hb, getElem?_append_length, List.getElem?_cons_zero], ?_⟩
  refine polyphonyStep_codebox hv (by simp [addAudioBoxes_boxes]) ?_
  rw [addParams_loopSubpatcher hs]
  exact loopSubpatcher_codebox codeboxCode items midi test numInputs numOutputs

end Unit

/-- **The `codebox~` interface of the patch.** In every patch `create_rnbo_patch` builds, the
DSP unit (box 1) and the effect unit, when its codebox is non-empty, each talk to their
`codebox~` exactly through the interface of their own code, parameters and channels: the audio
inputs and then one relay per parameter into it, the audio outputs and then the output scaling
of each MIDI chain out of it. The DSP unit takes the script's test flag, the effect unit plain
labels; both take the script's MIDI flag. -/
theorem createRnboPatch_codebox {dspName exportPath cppFilename dspCodeboxCode : String}
    {dspItemsInfoList : List ItemInfo} {dspNumInputs dspNumOutputs : Nat} {midi : Bool}
    {nvoices : Int} {effect : Option EffectUnit} {compile test : Bool} {P : Patcher Box}
    (h : createRnboPatch dspName exportPath cppFilename dspCodeboxCode dspItemsInfoList
      dspNumInputs dspNumOutputs midi nvoices effect compile test = .ok P) :
    (∃ r, P.boxes[1]? = some (.rnbo r) ∧ CodeboxInterface dspCodeboxCode dspItemsInfoList midi
      test dspNumInputs dspNumOutputs r.subpatcher) ∧
    ∀ e, EffectUnit.added effect = some e → ∃ k r, 1 < k ∧ P.boxes[k]? = some (.rnbo r) ∧
      CodeboxInterface e.codeboxCode e.itemsInfoList midi false e.numInputs e.numOutputs
        r.subpatcher := by
  obtain ⟨p1, k1, h1, p2, eff, h2, rfl⟩ := createRnboPatch_eq_ok.mp h
  obtain ⟨r, hr, hi⟩ := addRnboObject_codebox h1
  obtain ⟨rfl, -⟩ := addRnboObject_box h1
  have hmid : p1.boxes <+: (addMidiObjects p1 1 midi).1.boxes := by
    rw [addMidiObjects_boxes]
    exact List.prefix_append _ _
  obtain ⟨hp2, -, heff⟩ := addEffect_box h2
  have htail := createRnboPatch_tail_extends p2 1 exportPath cppFilename dspNumInputs
    dspNumOutputs (EffectUnit.added effect) eff compile
  refine ⟨⟨r, getElem?_of_extends ((hmid.trans hp2).trans htail) hr, hi⟩, fun e he => ?_⟩
  obtain ⟨re, -, hre, -, -, -, hsub⟩ := heff e he
  refine ⟨_, re, ?_, getElem?_of_extends htail hre, hsub ▸ loopSubpatcher_codebox _ _ _ _ _ _⟩
  have h1 : 1 < p1.boxes.length := (List.getElem?_eq_some_iff.mp hr).1
  exact Nat.lt_of_lt_of_le h1 hmid.length_le

/-- A MIDI synth with a gate button and a frequency slider on controller 1, and an effect: the
interfaces of both units. -/
theorem createRnboPatch_codebox_synth :
    ∃ P, createRnboPatch "synth" "export" "synth.cpp" "out1 = in1;"
        [⟨"gate", "button", 0, 0, 1, 1, []⟩, ⟨"freq", "hslider", 440, 20, 2000, 1, ["ctrl", "1"]⟩]
        0 2 true 4 (some ⟨"out1 = in1;", [], 2, 2⟩) true false = .ok P ∧
      ((∃ r, P.boxes[1]? = some (.rnbo r) ∧ CodeboxInterface "out1 = in1;"
          [⟨"gate", "button", 0, 0, 1, 1, []⟩, ⟨"freq", "hslider", 440, 20, 2000, 1, ["ctrl", "1"]⟩]
          true false 0 2 r.subpatcher) ∧
        ∀ e, EffectUnit.added (some ⟨"out1 = in1;", [], 2, 2⟩) = some e → ∃ k r, 1 < k ∧
          P.boxes[k]? = some (.rnbo r) ∧
          CodeboxInterface e.codeboxCode e.itemsInfoList true false e.numInputs e.numOutputs
            r.subpatcher) :=
  ⟨_, rfl, createRnboPatch_codebox rfl⟩

end FaustRnbo
