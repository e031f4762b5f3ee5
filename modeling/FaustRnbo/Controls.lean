import FaustRnbo.Cords
import FaustRnbo.LoadFiles

/-!
# Every Control Drives a Parameter of Its Unit

The top level of a patch holds one `attrui` control for each parameter of each unit. An
`attrui` sets the attribute it names on the object its cord runs into, so a control only works
if its cord runs into an `rnbo~` unit whose subpatcher declares a `param` of that name. This
module shows that `create_rnbo_patch` never draws a cord that breaks this. In every patch it
builds, each cord out of an `attrui` ends at inlet 0 of an `rnbo~` box. The subpatcher of that
box declares the parameter the control names, with the control's range and initial value.

The invariant `ControlsBound` is kept step by step:

* `add_rnbo_object` adds the controls of a unit together with the unit. The unit's subpatcher
  declares their parameters (`paramsTopLines_bound`).
* Every other step of `create_rnbo_patch` only draws cords out of boxes that are not controls.

The invariant also asks that every cord start at a box. Since steps only append boxes, a cord
already drawn then keeps the box it starts at, and what that box is (`BoundAt.append`).

The last section takes two inventories of the patch. Only `add_rnbo_object` places an `attrui`,
one per parameter, and an `rnbo~`, its unit; every other step adds only text boxes and
messages (`createRnboPatch_tail_filter`). So the controls of the patch are those of the DSP
unit's parameters and then those of the effect unit's, and the units are these two. With
`extract_items_info` in front, the controls are those of the widgets of the two UI trees.

## Main results

* `paramsTopLines_bound`: the cords of the controls of one unit are bound.
* `ControlsBound.addRnboObject`, `ControlsBound.addEffect`: the steps that add a unit keep the
  invariant.
* `createRnboPatch_controls`: every cord out of a control in a patch `create_rnbo_patch` builds
  drives a parameter of the unit it runs into.
* `createRnboPatch_control_boxes`: the controls of the patch are one per parameter of the DSP
  unit, then one per parameter of the effect unit, in order.
* `createRnboPatch_unit_count`: the patch holds no `rnbo~` box but the DSP unit and the effect
  unit.
* `loadFilesCreateRnboPatch_controls`: from the Faust JSON files, one control per widget of the
  DSP's UI tree in preorder, then one per widget of the effect's.
-/

namespace FaustRnbo

/-! ### Bound cords -/

/-- **A bound cord** starts at a box. If that box is an `attrui` control `a`, the cord ends at
inlet 0 of an `rnbo~` unit whose subpatcher declares the parameter `a` names, as
`param <attr> <init> @min <minimum> @max <maximum>`, where `init` is the initial value the
control holds. -/
def BoundAt (p : Patcher Box) (l : Line) : Prop :=
  ∃ b, p.boxes[l.src]? = some b ∧ ∀ a, b = .attrui a →
    l.inlet = 0 ∧ ∃ r init, p.boxes[l.dst]? = some (.rnbo r) ∧
      a.parameterInitial = [.sym a.attr, .num init] ∧
      .textbox [.sym "param", .sym a.attr, .num init, .sym "@min", .num a.minimum,
        .sym "@max", .num a.maximum] ∈ r.subpatcher.boxes

/-- **Every control is bound**: every line of the patcher is bound. -/
def ControlsBound (p : Patcher Box) : Prop := ∀ l ∈ p.lines, BoundAt p l

section Frame

variable {p p' : Patcher Box} {l : Line}

/-- A line out of a box that is not a control is bound. -/
theorem boundAt_of_src {b : Box} (hb : p.boxes[l.src]? = some b) (hn : ∀ a, b ≠ .attrui a) :
    BoundAt p l :=
  ⟨b, hb, fun a ha => absurd ha (hn a)⟩

/-- A line out of one of the boxes appended after `pre` is bound when none of them is a
control. -/
theorem boundAt_of_src_new {pre more : List Box} (hb : p.boxes = pre ++ more)
    (hm : ∀ b ∈ more, ∀ a, b ≠ .attrui a) (hs : pre.length ≤ l.src)
    (hs' : l.src < pre.length + more.length) : BoundAt p l := by
  have hget : p.boxes[l.src]? = more[l.src - pre.length]? := by
    rw [hb, List.getElem?_append_right hs]
  obtain ⟨b, hb'⟩ : ∃ b, more[l.src - pre.length]? = some b :=
    ⟨_, List.getElem?_eq_getElem (by omega)⟩
  exact boundAt_of_src (hget.trans hb') (hm b (List.getElem?_mem hb'))

/-- A cord from the control of `label` into inlet 0 of a unit that declares the parameter with
the control's range and initial value is bound. -/
theorem boundAt_control {label : String} {mn mx init : ℚ} {r : Rnbo}
    (hs : p.boxes[l.src]? = some (.attrui ⟨label, mn, mx, 1, [.sym label, .num init], 1⟩))
    (hd : p.boxes[l.dst]? = some (.rnbo r)) (hi : l.inlet = 0)
    (hp : .textbox [.sym "param", .sym label, .num init, .sym "@min", .num mn, .sym "@max",
      .num mx] ∈ r.subpatcher.boxes) : BoundAt p l := by
  refine ⟨_, hs, fun a ha => ?_⟩
  cases ha
  exact ⟨hi, r, init, hd, rfl, hp⟩

/-- A bound line stays bound when boxes are appended. -/
theorem BoundAt.append {more : List Box} (h : BoundAt p l) (hb : p'.boxes = p.boxes ++ more) :
    BoundAt p' l := by
  obtain ⟨b, hs, hc⟩ := h
  refine ⟨b, hb ▸ getElem?_append_of_eq_some hs, fun a ha => ?_⟩
  obtain ⟨hi, r, init, hr, hinit, hp⟩ := hc a ha
  exact ⟨hi, r, init, hb ▸ getElem?_append_of_eq_some hr, hinit, hp⟩

/-- **The step lemma**: a step that appends boxes and bound lines keeps every control bound. -/
theorem ControlsBound.extend (h : ControlsBound p) {more : List Box} {extra : List Line}
    (hb : p'.boxes = p.boxes ++ more) (hl : p'.lines = p.lines ++ extra)
    (hx : ∀ l ∈ extra, BoundAt p' l) : ControlsBound p' := by
  intro l hl'
  rw [hl, List.mem_append] at hl'
  exact hl'.elim (fun hl' => (h l hl').append hb) (hx l)

end Frame

/-! ### The controls of a unit -/

/-- The subpatcher the parameter loop leaves declares the parameter of every item. -/
theorem paramBox_mem_loopSubpatcher {codeboxCode : String} {items : List ItemInfo}
    {midi test : Bool} {numInputs numOutputs : Nat} {item : ItemInfo} (hi : item ∈ items) :
    .textbox [.sym "param", .sym (itemLabel test item), .num (declaredRange item).1,
        .sym "@min", .num (declaredRange item).2.1, .sym "@max", .num (declaredRange item).2.2] ∈
      (loopSubpatcher codeboxCode items midi test numInputs numOutputs).boxes := by
  simp only [loopSubpatcher, List.mem_append, List.mem_flatten, List.mem_map]
  exact .inr ⟨_, ⟨item, hi, rfl⟩, by simp [paramSubBoxes]⟩

/-- **The controls of one unit are bound.** When the controls of `items` are laid out from `n`
on, their cords run into the unit `r` at `k`, whose subpatcher declares their parameters. -/
theorem paramsTopLines_bound (test : Bool) {p : Patcher Box} {k : Nat} {r : Rnbo}
    (hk : p.boxes[k]? = some (.rnbo r)) :
    ∀ (items : List ItemInfo) (n : Nat),
      (∀ item ∈ items, .textbox [.sym "param", .sym (itemLabel test item),
        .num (declaredRange item).1, .sym "@min", .num (declaredRange item).2.1, .sym "@max",
        .num (declaredRange item).2.2] ∈ r.subpatcher.boxes) →
      (items.map (paramTopBoxes test)).flatten <+: p.boxes.drop n →
      ∀ l ∈ paramsTopLines test k items n, BoundAt p l
  | [], _, _, _ => by simp [paramsTopLines]
  | item :: items, n, hparams, ⟨t, ht⟩ => by
    rw [List.map_cons, List.flatten_cons, List.append_assoc] at ht
    have hA : ∀ j b, (paramTopBoxes test item)[j]? = some b → p.boxes[n + j]? = some b :=
      fun j b hj => by
        rw [← List.getElem?_drop, ← ht]
        exact getElem?_append_of_eq_some hj
    simp only [paramsTopLines, List.mem_append]
    rintro l (hl | hl)
    · -- the cords of the item's own controls
      have hp := hparams item (List.mem_cons_self _ _)
      unfold paramTopLines at hl
      split at hl
      · next hT =>
        simp only [List.mem_cons, List.mem_singleton, List.not_mem_nil, or_false] at hl
        rcases hl with rfl | rfl
        · exact boundAt_of_src (hA 0 (.textbox [.sym "toggle"] none none)
            (by rw [paramTopBoxes, if_pos hT]; rfl)) (by simp)
        · exact boundAt_control (hA 1 _ (by rw [paramTopBoxes, if_pos hT]; rfl)) hk rfl hp
      · next hT =>
        rw [List.mem_singleton] at hl
        subst hl
        exact boundAt_control (hA 0 _ (by rw [paramTopBoxes, if_neg hT]; rfl)) hk rfl hp
    · -- the cords of the controls of the later items
      refine paramsTopLines_bound test hk items _
        (fun i hi => hparams i (List.mem_cons_of_mem _ hi)) ⟨t, ?_⟩ l hl
      rw [← List.drop_drop, ← ht, List.drop_left]

/-! ### The steps of the patch -/

namespace ControlsBound

variable {p p' : Patcher Box}

theorem init : ControlsBound ⟨[.comment], []⟩ :=
  fun l hl => absurd hl (List.not_mem_nil l)

/-- **`add_rnbo_object` keeps every control bound**, and the id it returns is an `rnbo~` box. -/
theorem addRnboObject (h : ControlsBound p) {dspName codeboxCode : String}
    {items : List ItemInfo} {midi : Bool} {nvoices : Int} {test : Bool}
    {numInputs numOutputs k : Nat}
    (ha : FaustRnbo.addRnboObject p dspName codeboxCode items midi nvoices test numInputs
      numOutputs = .ok (p', k)) :
    ControlsBound p' ∧ ∃ r, p'.boxes[k]? = some (.rnbo r) := by
  obtain ⟨io, s, -, hs, rfl, hb, hl⟩ := addRnboObject_ok ha
  obtain ⟨rest, -, hsub, -, -⟩ := polyphonyStep_extends midi nvoices s
  have hk : p'.boxes[p.boxes.length]? = some (.rnbo { rnboRecord dspName midi nvoices io with
      subpatcher := polyphonyStep midi nvoices s }) := by
    rw [hb, getElem?_append_length, List.getElem?_cons_zero]
  refine ⟨h.extend hb hl fun l hl => paramsTopLines_bound test hk items _ (fun item hi => ?_)
    ⟨[], by simp [hb]⟩ l hl, _, hk⟩
  show _ ∈ (polyphonyStep midi nvoices s).boxes
  rw [hsub, addParams_loopSubpatcher hs]
  exact List.mem_append_left _ (paramBox_mem_loopSubpatcher hi)

/-- The adaptation lines start at the DSP unit. -/
theorem connectDspEffect (h : ControlsBound p) {dspRnbo : Nat}
    (hd : ∃ r, p.boxes[dspRnbo]? = some (.rnbo r))
    (effectRnbo dspNumOutputs effectNumInputs : Nat) :
    ControlsBound (FaustRnbo.connectDspEffect p dspRnbo effectRnbo dspNumOutputs
      effectNumInputs) := by
  obtain ⟨r, hr⟩ := hd
  rw [connectDspEffect_eq]
  exact h.extend (List.append_nil _).symm rfl fun l hl =>
    boundAt_of_src (by rw [(mem_adaptationLines hl).1]; exact hr) (by simp)

/-- The two MIDI lines start at `midiin` and at the unit. -/
theorem connectMidi (h : ControlsBound p) {rnbo midiIn : Nat}
    (hr : ∃ r, p.boxes[rnbo]? = some (.rnbo r))
    (hi : p.boxes[midiIn]? = some (.plain [.sym "midiin"])) (midiOut : Nat) :
    ControlsBound (FaustRnbo.connectMidi p rnbo midiIn midiOut) := by
  obtain ⟨r, hr⟩ := hr
  refine h.extend (List.append_nil _).symm (connectMidi_lines p rnbo midiIn midiOut)
    fun l hl => ?_
  simp only [List.mem_cons, List.mem_singleton, List.not_mem_nil, or_false] at hl
  rcases hl with rfl | rfl
  · exact boundAt_of_src hi (by simp [Box.plain])
  · exact boundAt_of_src hr (by simp)

theorem addMidiObjects (h : ControlsBound p) {k : Nat} (hk : ∃ r, p.boxes[k]? = some (.rnbo r))
    (midi : Bool) : ControlsBound (FaustRnbo.addMidiObjects p k midi).1 := by
  cases midi
  · exact h
  · obtain ⟨r, hr⟩ := hk
    have hb : ((p.addBox (.plain [.sym "midiin"])).1.addBox (.plain [.sym "midiout"])).1.boxes =
        p.boxes ++ [.plain [.sym "midiin"], .plain [.sym "midiout"]] := by
      simp
    show ControlsBound (FaustRnbo.connectMidi _ k p.boxes.length _)
    have h' := h.extend hb (List.append_nil _).symm fun l hl => absurd hl (List.not_mem_nil l)
    exact h'.connectMidi ⟨r, by rw [hb]; exact getElem?_append_of_eq_some hr⟩
      (by rw [hb, getElem?_append_length]; rfl) _

/-- **The effect block keeps every control bound**, given an `rnbo~` box at the DSP unit's id
and `midiin` at the id the MIDI block returns; the effect unit's id is an `rnbo~` box. -/
theorem addEffect (h : ControlsBound p) {dspRnbo dspNumOutputs : Nat} {midi : Bool}
    {midiBoxes : Option (Nat × Nat)} {effect : Option EffectUnit} {effectRnbo : Option Nat}
    (hd : ∃ r, p.boxes[dspRnbo]? = some (.rnbo r))
    (hm : ∀ midiIn midiOut, midiBoxes = some (midiIn, midiOut) →
      p.boxes[midiIn]? = some (.plain [.sym "midiin"]))
    (ha : FaustRnbo.addEffect p dspRnbo dspNumOutputs midi midiBoxes effect =
      .ok (p', effectRnbo)) :
    ControlsBound p' ∧ ∀ k, effectRnbo = some k → ∃ r, p'.boxes[k]? = some (.rnbo r) := by
  cases effect with
  | none =>
    simp only [FaustRnbo.addEffect, pure, Except.pure, Except.ok.injEq, Prod.mk.injEq] at ha
    obtain ⟨rfl, rfl⟩ := ha
    exact ⟨h, fun k hk => by cases hk⟩
  | some e =>
    simp only [FaustRnbo.addEffect, bind, except_bind_eq_ok, Prod.exists, pure, Except.pure,
      Except.ok.injEq, Prod.mk.injEq] at ha
    obtain ⟨p1, k, ha, rfl, rfl⟩ := ha
    obtain ⟨h1, r, hr⟩ := h.addRnboObject ha
    have hp := (addRnboObject_box ha).2.1
    have h2 := h1.connectDspEffect (hd.imp fun _ => getElem?_of_extends hp) k dspNumOutputs
      e.numInputs
    refine ⟨?_, fun k' hk' => ⟨r, by cases hk'; split <;> simpa using hr⟩⟩
    split
    · next midiIn midiOut =>
      exact h2.connectMidi ⟨r, by simpa using hr⟩
        (by simpa using getElem?_of_extends hp (hm midiIn midiOut rfl)) _
    · exact h2

theorem addCompileTest (h : ControlsBound p) {rnbo : Nat}
    (hk : ∃ r, p.boxes[rnbo]? = some (.rnbo r)) (exportPath cppFilename : String) :
    ControlsBound (FaustRnbo.addCompileTest p rnbo exportPath cppFilename) := by
  obtain ⟨r, hr⟩ := hk
  rw [addCompileTest_eq p (List.getElem?_eq_some_iff.mp hr).1]
  refine h.extend rfl rfl fun l hl => ?_
  have hsrc : l.src = rnbo ∨ p.boxes.length ≤ l.src ∧ l.src < p.boxes.length + 8 := by
    simp only [compileTestLines, List.mem_cons, List.not_mem_nil, or_false] at hl
    rcases hl with rfl | rfl | rfl | rfl | rfl | rfl | rfl | rfl | rfl | rfl | rfl <;> simp
  rcases hsrc with hs | ⟨hs, hs'⟩
  · exact boundAt_of_src (by rw [hs]; exact getElem?_append_of_eq_some hr) (by simp)
  · exact boundAt_of_src_new rfl (by simp [compileTestBoxes, Box.plain]) hs hs'

theorem createAudioOutput (h : ControlsBound p) {rnbo : Nat}
    (hk : ∃ r, p.boxes[rnbo]? = some (.rnbo r)) (numOutputs : Nat) :
    ControlsBound (FaustRnbo.createAudioOutput p rnbo numOutputs) := by
  obtain ⟨r, hr⟩ := hk
  rw [createAudioOutput_eq]
  refine h.extend rfl rfl fun l hl => ?_
  simp only [List.mem_cons, List.mem_map, List.mem_range] at hl
  rcases hl with rfl | ⟨i, -, rfl⟩
  · exact boundAt_of_src_new rfl (by simp [Box.plain]) le_rfl (by simp)
  · exact boundAt_of_src (getElem?_append_of_eq_some hr) (by simp)

theorem addAudioOutput (h : ControlsBound p) {dspRnbo : Nat}
    (hd : ∃ r, p.boxes[dspRnbo]? = some (.rnbo r)) (dspNumOutputs : Nat)
    (effect : Option EffectUnit) {effectRnbo : Option Nat}
    (he : ∀ k, effectRnbo = some k → ∃ r, p.boxes[k]? = some (.rnbo r)) :
    ControlsBound (FaustRnbo.addAudioOutput p dspRnbo dspNumOutputs effect effectRnbo) := by
  unfold FaustRnbo.addAudioOutput
  split
  · next e k => exact h.createAudioOutput (he k rfl) _
  · exact h.createAudioOutput hd _

theorem createAudioInput (h : ControlsBound p) (rnbo numInputs : Nat) :
    ControlsBound (FaustRnbo.createAudioInput p rnbo numInputs) := by
  rw [createAudioInput_eq]
  refine h.extend rfl rfl fun l hl => ?_
  obtain ⟨i, -, rfl⟩ := List.mem_map.mp hl
  exact boundAt_of_src_new rfl (by simp) le_rfl (by simp)

end ControlsBound

/-! ### The whole patch -/

/-- The MIDI block puts `midiin` at the first id it returns. -/
theorem addMidiObjects_midiIn (p : Patcher Box) (k : Nat) (midi : Bool) :
    ∀ midiIn midiOut, (addMidiObjects p k midi).2 = some (midiIn, midiOut) →
      (addMidiObjects p k midi).1.boxes[midiIn]? = some (.plain [.sym "midiin"]) := by
  cases midi
  · rintro _ _ ⟨⟩
  · rintro _ _ ⟨⟩
    show ((p.boxes ++ [_]) ++ [_])[p.boxes.length]? = _
    rw [List.append_assoc, getElem?_append_length]
    rfl

/-- **Every control drives a parameter of its unit.** In every patch `create_rnbo_patch` builds,
every cord out of an `attrui` control ends at inlet 0 of an `rnbo~` box, and the subpatcher of
that box declares the parameter the control names, with the control's range and initial
value. -/
theorem createRnboPatch_controls {dspName exportPath cppFilename dspCodeboxCode : String}
    {dspItemsInfoList : List ItemInfo} {dspNumInputs dspNumOutputs : Nat} {midi : Bool}
    {nvoices : Int} {effect : Option EffectUnit} {compile test : Bool} {P : Patcher Box}
    (h : createRnboPatch dspName exportPath cppFilename dspCodeboxCode dspItemsInfoList
      dspNumInputs dspNumOutputs midi nvoices effect compile test = .ok P) :
    ∀ l ∈ P.lines, ∀ a, P.boxes[l.src]? = some (.attrui a) →
      l.inlet = 0 ∧ ∃ r init, P.boxes[l.dst]? = some (.rnbo r) ∧
        a.parameterInitial = [.sym a.attr, .num init] ∧
        .textbox [.sym "param", .sym a.attr, .num init, .sym "@min", .num a.minimum,
          .sym "@max", .num a.maximum] ∈ r.subpatcher.boxes := by
  obtain ⟨p1, k, h1, p2, eff, h2, rfl⟩ := createRnboPatch_eq_ok.mp h
  obtain ⟨c1, r, hr⟩ := ControlsBound.init.addRnboObject h1
  -- the DSP unit, the MIDI objects and the effect block
  have hmid : p1.boxes <+: (addMidiObjects p1 k midi).1.boxes := by
    rw [addMidiObjects_boxes]
    exact List.prefix_append _ _
  obtain ⟨c3, heff⟩ := (c1.addMidiObjects ⟨r, hr⟩ midi).addEffect
    ⟨r, getElem?_of_extends hmid hr⟩ (addMidiObjects_midiIn p1 k midi) h2
  have hr2 : p2.boxes[k]? = some (.rnbo r) :=
    getElem?_of_extends (hmid.trans (addEffect_box h2).1) hr
  -- the compile machinery and the audio drivers
  have hc : p2.boxes <+: (if compile then addCompileTest p2 k exportPath cppFilename
      else p2).boxes := by
    split <;> simp [addCompileTest_boxes]
  have c4 : ControlsBound (if compile then addCompileTest p2 k exportPath cppFilename
      else p2) := by
    split
    · exact c3.addCompileTest ⟨r, hr2⟩ _ _
    · exact c3
  have c5 := c4.addAudioOutput ⟨r, getElem?_of_extends hc hr2⟩ dspNumOutputs
    (EffectUnit.added effect) fun k' hk' => (heff k' hk').imp fun _ => getElem?_of_extends hc
  have c6 : ControlsBound (if 0 < dspNumInputs then createAudioInput (addAudioOutput
      (if compile then addCompileTest p2 k exportPath cppFilename else p2) k dspNumOutputs
      (EffectUnit.added effect) eff) k dspNumInputs
    else addAudioOutput (if compile then addCompileTest p2 k exportPath cppFilename else p2) k
      dspNumOutputs (EffectUnit.added effect) eff) := by
    split
    · exact c5.createAudioInput k dspNumInputs
    · exact c5
  intro l hl a ha
  obtain ⟨b, hb, hbound⟩ := c6 l hl
  exact hbound a (Option.some.inj (hb.symm.trans ha))

/-- A MIDI synth with a gate button and a frequency slider, and an effect with a gain slider:
every control drives a parameter of its unit. -/
theorem createRnboPatch_controls_synth :
    ∃ P, createRnboPatch "synth" "export" "synth.cpp" "out1 = in1;"
        [⟨"gate", "button", 0, 0, 1, 1, []⟩,
          ⟨"freq", "hslider", 440, 20, 2000, 1, ["ctrl", "1"]⟩] 0 2 true 4
        (some ⟨"out1 = in1 * gain;", [⟨"gain", "hslider", 1, 0, 2, 1, []⟩], 2, 2⟩)
        true false = .ok P ∧
      ∀ l ∈ P.lines, ∀ a, P.boxes[l.src]? = some (.attrui a) →
        l.inlet = 0 ∧ ∃ r init, P.boxes[l.dst]? = some (.rnbo r) ∧
          a.parameterInitial = [.sym a.attr, .num init] ∧
          .textbox [.sym "param", .sym a.attr, .num init, .sym "@min", .num a.minimum,
            .sym "@max", .num a.maximum] ∈ r.subpatcher.boxes := by
  obtain ⟨P, hP⟩ : ∃ P, createRnboPatch "synth" "export" "synth.cpp" "out1 = in1;"
      [⟨"gate", "button", 0, 0, 1, 1, []⟩,
        ⟨"freq", "hslider", 440, 20, 2000, 1, ["ctrl", "1"]⟩] 0 2 true 4
      (some ⟨"out1 = in1 * gain;", [⟨"gain", "hslider", 1, 0, 2, 1, []⟩], 2, 2⟩)
      true false = .ok P := ⟨_, rfl⟩
  exact ⟨P, hP, createRnboPatch_controls hP⟩

/-! ### The inventories of the patch -/

/-- Whether a box is an `rnbo~` unit. -/
def Box.isUnit : Box → Bool
  | .rnbo _ => true
  | _ => false

/-- The parameters of the effect unit `create_rnbo_patch` adds; none without one. -/
def effectItems : Option EffectUnit → List ItemInfo
  | some e => e.itemsInfoList
  | none => []

section Plain

variable {f : Box → Bool}

/-- Boxes appended with none that `f` picks leave the picked boxes as they were. -/
theorem filter_append_of_nil {xs more : List Box} (h : more.filter f = []) :
    (xs ++ more).filter f = xs.filter f := by
  rw [List.filter_append, h, List.append_nil]

/-- The MIDI block adds two text boxes. -/
theorem addMidiObjects_filter (ht : ∀ text i o, f (.textbox text i o) = false)
    (p : Patcher Box) (k : Nat) (midi : Bool) :
    (addMidiObjects p k midi).1.boxes.filter f = p.boxes.filter f := by
  rw [addMidiObjects_boxes]
  exact filter_append_of_nil (by cases midi <;> simp [Box.plain, ht])

/-- The steps of `create_rnbo_patch` after the effect block add only text boxes and messages:
they leave the boxes of any other kind as they were. -/
theorem createRnboPatch_tail_filter (ht : ∀ text i o, f (.textbox text i o) = false)
    (hm : ∀ text, f (.message text) = false) (p : Patcher Box) (dspRnbo : Nat)
    (exportPath cppFilename : String) (dspNumInputs dspNumOutputs : Nat)
    (effect : Option EffectUnit) (effectRnbo : Option Nat) (compile : Bool) :
    (if 0 < dspNumInputs then
        createAudioInput (addAudioOutput
          (if compile then addCompileTest p dspRnbo exportPath cppFilename else p) dspRnbo
          dspNumOutputs effect effectRnbo) dspRnbo dspNumInputs
      else addAudioOutput (if compile then addCompileTest p dspRnbo exportPath cppFilename else p)
        dspRnbo dspNumOutputs effect effectRnbo).boxes.filter f = p.boxes.filter f := by
  have hc : (if compile then addCompileTest p dspRnbo exportPath cppFilename else p).boxes.filter
      f = p.boxes.filter f := by
    split
    · rw [addCompileTest_boxes]
      exact filter_append_of_nil (by simp [compileTestBoxes, Box.plain, ht, hm])
    · rfl
  have ho : ∀ q : Patcher Box,
      (addAudioOutput q dspRnbo dspNumOutputs effect effectRnbo).boxes.filter f =
        q.boxes.filter f := fun q => by
    unfold addAudioOutput
    split <;> rw [createAudioOutput_eq] <;> exact filter_append_of_nil (by simp [Box.plain, ht])
  split
  · rw [createAudioInput_eq]
    exact (filter_append_of_nil (by simp [ht])).trans ((ho _).trans hc)
  · exact (ho _).trans hc

end Plain

/-- `add_rnbo_object` adds the controls of its parameters, in order, and no other. -/
theorem addRnboObject_controls {p p' : Patcher Box} {dspName codeboxCode : String}
    {items : List ItemInfo} {midi : Bool} {nvoices : Int} {test : Bool}
    {numInputs numOutputs k : Nat}
    (ha : addRnboObject p dspName codeboxCode items midi nvoices test numInputs numOutputs =
      .ok (p', k)) :
    p'.boxes.filter Box.isControl =
      p.boxes.filter Box.isControl ++ items.map (itemControl test) := by
  obtain ⟨io, s, -, -, -, hb, -⟩ := addRnboObject_ok ha
  rw [hb, List.filter_append, List.filter_cons_of_neg (by simp [Box.isControl]),
    paramsTopBoxes_controls]

/-- The effect block adds the controls of the effect's parameters, without the test suffix. -/
theorem addEffect_controls {p p' : Patcher Box} {dspRnbo dspNumOutputs : Nat} {midi : Bool}
    {midiBoxes : Option (Nat × Nat)} {effect : Option EffectUnit} {effectRnbo : Option Nat}
    (ha : addEffect p dspRnbo dspNumOutputs midi midiBoxes effect = .ok (p', effectRnbo)) :
    p'.boxes.filter Box.isControl =
      p.boxes.filter Box.isControl ++ (effectItems effect).map (itemControl false) := by
  rcases addEffect_eq_ok ha with ⟨rfl, -, rfl⟩ | ⟨e, p1, k, rfl, -, ha1, hb⟩
  · simp [effectItems]
  · rw [hb, addRnboObject_controls ha1]
    rfl

/-- **The controls of the patch.** In every patch `create_rnbo_patch` builds, the `attrui` boxes
are, in order, the control of each parameter of the DSP unit, labelled under the test flag,
and then the control of each parameter of the effect unit when there is one, labelled without
the test suffix. No other step of the script places a control. -/
theorem createRnboPatch_control_boxes {dspName exportPath cppFilename dspCodeboxCode : String}
    {dspItemsInfoList : List ItemInfo} {dspNumInputs dspNumOutputs : Nat} {midi : Bool}
    {nvoices : Int} {effect : Option EffectUnit} {compile test : Bool} {P : Patcher Box}
    (h : createRnboPatch dspName exportPath cppFilename dspCodeboxCode dspItemsInfoList
      dspNumInputs dspNumOutputs midi nvoices effect compile test = .ok P) :
    P.boxes.filter Box.isControl = dspItemsInfoList.map (itemControl test) ++
      (effectItems (EffectUnit.added effect)).map (itemControl false) := by
  obtain ⟨p1, k, h1, p2, eff, h2, rfl⟩ := createRnboPatch_eq_ok.mp h
  have hp2 := addEffect_controls h2
  rw [addMidiObjects_filter (fun _ _ _ => rfl), addRnboObject_controls h1] at hp2
  rw [createRnboPatch_tail_filter (fun _ _ _ => rfl) (fun _ => rfl), hp2]
  rfl

/-- The synth with an effect of the previous example: its three controls, for `gate`, `freq`
and the effect's `gain`. -/
theorem createRnboPatch_control_boxes_synth :
    ∃ P, createRnboPatch "synth" "export" "synth.cpp" "out1 = in1;"
        [⟨"gate", "button", 0, 0, 1, 1, []⟩,
          ⟨"freq", "hslider", 440, 20, 2000, 1, ["ctrl", "1"]⟩] 0 2 true 4
        (some ⟨"out1 = in1 * gain;", [⟨"gain", "hslider", 1, 0, 2, 1, []⟩], 2, 2⟩)
        true false = .ok P ∧
      P.boxes.filter Box.isControl =
        [⟨"gate", "button", 0, 0, 1, 1, []⟩,
          ⟨"freq", "hslider", 440, 20, 2000, 1, ["ctrl", "1"]⟩].map (itemControl false) ++
        (effectItems (EffectUnit.added
          (some ⟨"out1 = in1 * gain;", [⟨"gain", "hslider", 1, 0, 2, 1, []⟩], 2, 2⟩))).map
          (itemControl false) := by
  obtain ⟨P, hP⟩ : ∃ P, createRnboPatch "synth" "export" "synth.cpp" "out1 = in1;"
      [⟨"gate", "button", 0, 0, 1, 1, []⟩,
        ⟨"freq", "hslider", 440, 20, 2000, 1, ["ctrl", "1"]⟩] 0 2 true 4
      (some ⟨"out1 = in1 * gain;", [⟨"gain", "hslider", 1, 0, 2, 1, []⟩], 2, 2⟩)
      true false = .ok P := ⟨_, rfl⟩
  exact ⟨P, hP, createRnboPatch_control_boxes hP⟩

theorem paramsTopBoxes_units (test : Bool) (items : List ItemInfo) :
    (items.map (paramTopBoxes test)).flatten.filter Box.isUnit = [] := by
  induction items with
  | nil => rfl
  | cons item items ih =>
    rw [List.map_cons, List.flatten_cons, filter_append_of_nil ih]
    unfold paramTopBoxes
    split <;> rfl

/-- `add_rnbo_object` adds one unit. -/
theorem addRnboObject_units {p p' : Patcher Box} {dspName codeboxCode : String}
    {items : List ItemInfo} {midi : Bool} {nvoices : Int} {test : Bool}
    {numInputs numOutputs k : Nat}
    (ha : addRnboObject p dspName codeboxCode items midi nvoices test numInputs numOutputs =
      .ok (p', k)) :
    (p'.boxes.filter Box.isUnit).length = (p.boxes.filter Box.isUnit).length + 1 := by
  obtain ⟨io, s, -, -, -, hb, -⟩ := addRnboObject_ok ha
  rw [hb, List.filter_append, List.filter_cons_of_pos rfl, paramsTopBoxes_units,
    List.length_append]
  rfl

/-- The effect block adds one unit when it is given an effect, and none otherwise. -/
theorem addEffect_units {p p' : Patcher Box} {dspRnbo dspNumOutputs : Nat} {midi : Bool}
    {midiBoxes : Option (Nat × Nat)} {effect : Option EffectUnit} {effectRnbo : Option Nat}
    (ha : addEffect p dspRnbo dspNumOutputs midi midiBoxes effect = .ok (p', effectRnbo)) :
    (p'.boxes.filter Box.isUnit).length =
      (p.boxes.filter Box.isUnit).length + effect.toList.length := by
  rcases addEffect_eq_ok ha with ⟨rfl, -, rfl⟩ | ⟨e, p1, k, rfl, -, ha1, hb⟩
  · rfl
  · rw [hb, addRnboObject_units ha1]
    rfl

/-- **No stray unit.** Every patch `create_rnbo_patch` builds holds exactly one `rnbo~` box, the
DSP unit, and one more, the effect unit, when the effect's codebox is not empty. -/
theorem createRnboPatch_unit_count {dspName exportPath cppFilename dspCodeboxCode : String}
    {dspItemsInfoList : List ItemInfo} {dspNumInputs dspNumOutputs : Nat} {midi : Bool}
    {nvoices : Int} {effect : Option EffectUnit} {compile test : Bool} {P : Patcher Box}
    (h : createRnboPatch dspName exportPath cppFilename dspCodeboxCode dspItemsInfoList
      dspNumInputs dspNumOutputs midi nvoices effect compile test = .ok P) :
    (P.boxes.filter Box.isUnit).length = 1 + (EffectUnit.added effect).toList.length := by
  obtain ⟨p1, k, h1, p2, eff, h2, rfl⟩ := createRnboPatch_eq_ok.mp h
  have hp2 := addEffect_units h2
  rw [addMidiObjects_filter (fun _ _ _ => rfl), addRnboObject_units h1] at hp2
  rw [createRnboPatch_tail_filter (fun _ _ _ => rfl) (fun _ => rfl), hp2]
  rfl

/-- The synth with an effect of the previous examples holds two units. -/
theorem createRnboPatch_unit_count_synth :
    ∃ P, createRnboPatch "synth" "export" "synth.cpp" "out1 = in1;"
        [⟨"gate", "button", 0, 0, 1, 1, []⟩,
          ⟨"freq", "hslider", 440, 20, 2000, 1, ["ctrl", "1"]⟩] 0 2 true 4
        (some ⟨"out1 = in1 * gain;", [⟨"gain", "hslider", 1, 0, 2, 1, []⟩], 2, 2⟩)
        true false = .ok P ∧
      (P.boxes.filter Box.isUnit).length = 1 + (EffectUnit.added (some ⟨"out1 = in1 * gain;",
        [⟨"gain", "hslider", 1, 0, 2, 1, []⟩], 2, 2⟩)).toList.length := by
  obtain ⟨P, hP⟩ : ∃ P, createRnboPatch "synth" "export" "synth.cpp" "out1 = in1;"
      [⟨"gate", "button", 0, 0, 1, 1, []⟩,
        ⟨"freq", "hslider", 440, 20, 2000, 1, ["ctrl", "1"]⟩] 0 2 true 4
      (some ⟨"out1 = in1 * gain;", [⟨"gain", "hslider", 1, 0, 2, 1, []⟩], 2, 2⟩)
      true false = .ok P := ⟨_, rfl⟩
  exact ⟨P, hP, createRnboPatch_unit_count hP⟩

/-! ### From the Faust JSON to the controls -/

/-- **The controls of the widgets of a Faust UI tree**: one per node, in preorder, that is a
button or a checkbox or carries `min`, `max` and `step`, as `extract_items_info` reads it. -/
def widgetControls (test : Bool) (json : DspJson) : List Box :=
  ((preorderList (json.ui.getD [])).filterMap descriptor).map (itemControl test)

theorem extractItemsInfo_controls (test : Bool) (json : DspJson) :
    (extractItemsInfo json).map (itemControl test) = widgetControls test json := by
  cases h : json.ui <;> simp [extractItemsInfo, widgetControls, h, extractFromUi_eq, preorderList]

/-- **Every widget gets one control.** Whenever `load_files_create_rnbo_patch` builds a patch
from the files it has read, the `attrui` boxes of the patch are, in order, one control for
each widget of the DSP's UI tree in preorder, and then, when the effect's codebox is not empty,
one for each widget of the effect's UI tree, labelled without the test suffix. -/
theorem loadFilesCreateRnboPatch_controls (D : DecimalDigits)
    {dspName exportPath cppFilename : String} {dsp : UnitFiles} {effect : Option UnitFiles}
    {midi : Bool} {nvoices : Option Int} {compile test : Bool} {P : Patcher Box}
    (h : loadFilesCreateRnboPatch D dspName exportPath cppFilename dsp effect midi nvoices
      compile test = .ok P) :
    P.boxes.filter Box.isControl = widgetControls test dsp.json ++
      match effect with
      | some e => if e.codeboxCode = "" then [] else widgetControls false e.json
      | none => [] := by
  -- the call of `create_rnbo_patch` the script makes
  obtain ⟨voices, hc⟩ : ∃ voices, createRnboPatch dspName exportPath cppFilename dsp.codeboxCode
      (extractItemsInfo dsp.json) (dsp.json.inputs.getD 0) (dsp.json.outputs.getD 0)
      (midiFlag midi (getMidiAndNvoices D dsp.json)) voices
      (effect.map fun e => ⟨e.codeboxCode, extractItemsInfo e.json, e.json.inputs.getD 0,
        e.json.outputs.getD 0⟩) compile test = .ok P := by
    cases effect with
    | none => exact ⟨_, h⟩
    | some e =>
      cases nvoices with
      | none => simp [loadFilesCreateRnboPatch, effectVoices, bind, Except.bind] at h
      | some n => exact ⟨_, h⟩
  -- the run of `create_rnbo_patch`
  obtain ⟨p1, k, h1, p2, eff, h2, rfl⟩ := createRnboPatch_eq_ok.mp hc
  have hp2 := addEffect_controls h2
  rw [addMidiObjects_filter (fun _ _ _ => rfl), addRnboObject_controls h1] at hp2
  rw [createRnboPatch_tail_filter (fun _ _ _ => rfl) (fun _ => rfl), hp2,
    extractItemsInfo_controls]
  rcases effect with _ | e
  · rfl
  · by_cases he : e.codeboxCode = "" <;>
      simp [EffectUnit.added, effectItems, he, extractItemsInfo_controls, Box.isControl]

/-- The files of a synth whose UI groups a gate button and a frequency slider on controller 1. -/
def synthFiles : UnitFiles :=
  ⟨"out1 = in1;", ⟨some 0, some 2, [], some [⟨some "vgroup", some "synth", none, none, none,
    none, none, some [⟨some "button", some "gate", none, none, none, none, none, none⟩,
      ⟨some "hslider", some "freq", some 20, some 2000, some 1, some 440,
        some [[("midi", "ctrl 1")]], none⟩]⟩]⟩⟩

/-- The files of an effect whose UI has a gain slider. -/
def gainFiles : UnitFiles :=
  ⟨"out1 = in1 * gain;",
    ⟨some 2, some 2, [], some [⟨some "hslider", some "gain", some 0, some 2, some 1, some 1,
      none, none⟩]⟩⟩

/-- The synth with the gain effect: one control for each of its three widgets. -/
theorem loadFilesCreateRnboPatch_controls_synth :
    ∃ P, loadFilesCreateRnboPatch asciiDigits "synth" "export" "synth.cpp" synthFiles
        (some gainFiles) true (some 4) true false = .ok P ∧
      P.boxes.filter Box.isControl = widgetControls false synthFiles.json ++
        match some gainFiles with
        | some e => if e.codeboxCode = "" then [] else widgetControls false e.json
        | none => [] := by
  obtain ⟨P, hP⟩ : ∃ P, loadFilesCreateRnboPatch asciiDigits "synth" "export" "synth.cpp"
      synthFiles (some gainFiles) true (some 4) true false = .ok P := ⟨_, rfl⟩
  exact ⟨P, hP, loadFilesCreateRnboPatch_controls asciiDigits hP⟩

end FaustRnbo
