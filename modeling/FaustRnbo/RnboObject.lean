import FaustRnbo.IoInfo
import FaustRnbo.Params

/-!
# `add_rnbo_object`

`add_rnbo_object` adds one processing unit to the top-level patcher: an `rnbo~` box with the
ports `generate_io_info` declares, and in its subpatcher the `codebox~`, the audio `in~` and
`out~` boxes, the parameter wiring of `FaustRnbo.Params`, and, when MIDI is on, the voice
count positive and a pitch, a gain and a gate parameter were found, the polyphony subgraph of
`add_polyphony_control`.

The script fills `rnbo.subpatcher` in place after the `rnbo~` box is created; the model
builds the subpatcher and writes it back into the box at the end (`Patcher.setSubpatcher`).

## Main results

* `addRnboObject_ok_iff`: `add_rnbo_object` raises exactly when MIDI is on with no inputs and
  no outputs, or some slider or entry has a step of `0` or numbers beyond the float range, and
  the exception it raises tells the two apart.
* `addRnboObject_eq_ok`: the steps of a call that does not raise.
-/

namespace FaustRnbo

/-- `add_polyphony_control`: a `notein` box driving the pitch relay (through `mtof` in
frequency mode), the gain relay from the velocity outlet (through `scale 0 127 0 1` in gain
mode), and the gate relay through `> 0` from the velocity outlet. -/
def addPolyphonyControl (subPatch : Patcher SubBox) (setParamPitch setParamGain setParamGate : Nat)
    (isFreq isGain : Bool) : Patcher SubBox :=
  let (subPatch, noteIn) := subPatch.addBox (.textbox [.sym "notein"])
  let subPatch :=
    if isFreq then
      let (subPatch, mtof) := subPatch.addBox (.textbox [.sym "mtof"])
      let subPatch := subPatch.addLine noteIn mtof 0 0
      subPatch.addLine mtof setParamPitch 0 0
    else subPatch.addLine noteIn setParamPitch 0 0
  let subPatch :=
    if isGain then
      let (subPatch, scaleGain) :=
        subPatch.addBox (.textbox [.sym "scale", .num 0, .num 127, .num 0, .num 1])
      let subPatch := subPatch.addLine noteIn scaleGain 0 1
      subPatch.addLine scaleGain setParamGain 0 0
    else subPatch.addLine noteIn setParamGain 0 1
  let (subPatch, gateOp) := subPatch.addBox (.textbox [.sym ">", .num 0])
  let subPatch := subPatch.addLine noteIn gateOp 0 1
  subPatch.addLine gateOp setParamGate 0 0

/-- `for i in range(num_inputs)`: an `in~ <i + 1>` box into inlet `i` of the `codebox~`. -/
def addInputs (subPatch : Patcher SubBox) (codebox numInputs : Nat) : Patcher SubBox :=
  (List.range numInputs).foldl (fun subPatch (i : Nat) =>
    let (subPatch, inputBox) := subPatch.addBox (.textbox [.sym "in~", .num (i + 1)])
    subPatch.addLine inputBox codebox i 0) subPatch

/-- `for i in range(num_outputs)`: outlet `i` of the `codebox~` into an `out~ <i + 1>` box. -/
def addOutputs (subPatch : Patcher SubBox) (codebox numOutputs : Nat) : Patcher SubBox :=
  (List.range numOutputs).foldl (fun subPatch (i : Nat) =>
    let (subPatch, outputBox) := subPatch.addBox (.textbox [.sym "out~", .num (i + 1)])
    subPatch.addLine codebox outputBox 0 i) subPatch

/-- The audio boxes of the subpatcher: the `in~ 1` placeholder of a unit without inputs
(the script's workaround for RNBO's C++ generation), then the `in~` and `out~` boxes. -/
def addAudioBoxes (subPatch : Patcher SubBox) (codebox numInputs numOutputs : Nat) :
    Patcher SubBox :=
  let subPatch :=
    if numInputs = 0 then
      let (subPatch, inBox) := subPatch.addBox (.textbox [.sym "in~", .num 1])
      subPatch.addLine inBox codebox 0 0
    else subPatch
  let subPatch := addInputs subPatch codebox numInputs
  addOutputs subPatch codebox numOutputs

/-- The `rnbo~` object `add_rnbo` creates for a unit, with the ports `generate_io_info` gave
and an empty subpatcher. -/
def rnboRecord (dspName : String) (midi : Bool) (nvoices : Int)
    (io : Nat × Nat × List IOEntry × List IOEntry) : Rnbo :=
  ⟨dspName, io.1, io.2.1, io.2.2.1, io.2.2.2,
    ⟨"O3", dspName, 1, if midi && decide (0 < nvoices) then some nvoices else none⟩, .empty⟩

/-- The polyphony accumulators before the loop. -/
def Voicing.init : Voicing := ⟨none, none, none, false, false⟩

/-- After the loop: `add_polyphony_control` when MIDI is on, the voice count is positive and a
pitch, a gain and a gate relay were found. -/
def polyphonyStep (midi : Bool) (nvoices : Int) (s : ParamState) : Patcher SubBox :=
  match midi && decide (0 < nvoices), s.voicing.pitch, s.voicing.gain, s.voicing.gate with
  | true, some pitch, some gain, some gate =>
    addPolyphonyControl s.subPatch pitch gain gate s.voicing.isFreq s.voicing.isGain
  | _, _, _, _ => s.subPatch

/-- Write the filled subpatcher back into the `rnbo~` box `k`. -/
def Patcher.setSubpatcher (p : Patcher Box) (k : Nat) (r : Rnbo) (sub : Patcher SubBox) :
    Patcher Box :=
  ⟨p.boxes.set k (.rnbo { r with subpatcher := sub }), p.lines⟩

/-- `add_rnbo_object`: the top-level patcher with the unit added, and the id of its `rnbo~`
box. -/
def addRnboObject (patcher : Patcher Box) (dspName codeboxCode : String)
    (itemsInfoList : List ItemInfo) (midi : Bool) (nvoices : Int) (test : Bool)
    (numInputs numOutputs : Nat) : Except PyError (Patcher Box × Nat) := do
  let io ← generateIoInfo midi numInputs numOutputs
  let r := rnboRecord dspName midi nvoices io
  let (patcher, rnbo) := patcher.addBox (.rnbo r)
  let (subPatch, codebox) := (Patcher.empty : Patcher SubBox).addBox (.codebox codeboxCode)
  let subPatch := addAudioBoxes subPatch codebox numInputs numOutputs
  let s ← addParams ⟨midi, nvoices, test, rnbo, codebox⟩ itemsInfoList
    ⟨patcher, subPatch, Voicing.init⟩
  pure (s.patcher.setSubpatcher rnbo r (polyphonyStep midi nvoices s), rnbo)

/-- The steps of a call of `add_rnbo_object` that does not raise. -/
theorem addRnboObject_eq_ok {patcher : Patcher Box} {dspName codeboxCode : String}
    {itemsInfoList : List ItemInfo} {midi : Bool} {nvoices : Int} {test : Bool}
    {numInputs numOutputs : Nat} {res : Patcher Box × Nat} :
    addRnboObject patcher dspName codeboxCode itemsInfoList midi nvoices test numInputs
        numOutputs = .ok res ↔
      ∃ io, generateIoInfo midi numInputs numOutputs = .ok io ∧ ∃ s,
        addParams ⟨midi, nvoices, test, patcher.boxes.length, 0⟩ itemsInfoList
          ⟨⟨patcher.boxes ++ [.rnbo (rnboRecord dspName midi nvoices io)], patcher.lines⟩,
            addAudioBoxes ⟨[.codebox codeboxCode], []⟩ 0 numInputs numOutputs, Voicing.init⟩ =
          .ok s ∧
        (s.patcher.setSubpatcher patcher.boxes.length (rnboRecord dspName midi nvoices io)
          (polyphonyStep midi nvoices s), patcher.boxes.length) = res := by
  simp only [addRnboObject, bind, except_bind_eq_ok, pure, Except.pure, Except.ok.injEq]
  rfl

/-- **What `add_rnbo_object` builds** on the top level: after the boxes it was given, the
unit, whose subpatcher the parameter loop and the polyphony step fill, and the parameter
controls, with their lines; the id it returns is the unit's. -/
theorem addRnboObject_ok {patcher : Patcher Box} {dspName codeboxCode : String}
    {itemsInfoList : List ItemInfo} {midi : Bool} {nvoices : Int} {test : Bool}
    {numInputs numOutputs : Nat} {P : Patcher Box} {k : Nat}
    (h : addRnboObject patcher dspName codeboxCode itemsInfoList midi nvoices test numInputs
      numOutputs = .ok (P, k)) :
    ∃ io s, generateIoInfo midi numInputs numOutputs = .ok io ∧
      addParams ⟨midi, nvoices, test, patcher.boxes.length, 0⟩ itemsInfoList
          ⟨⟨patcher.boxes ++ [.rnbo (rnboRecord dspName midi nvoices io)], patcher.lines⟩,
            addAudioBoxes ⟨[.codebox codeboxCode], []⟩ 0 numInputs numOutputs, Voicing.init⟩ =
        .ok s ∧
      k = patcher.boxes.length ∧
      P.boxes = patcher.boxes ++ .rnbo { rnboRecord dspName midi nvoices io with
          subpatcher := polyphonyStep midi nvoices s } ::
        (itemsInfoList.map (paramTopBoxes test)).flatten ∧
      P.lines = patcher.lines ++
        paramsTopLines test patcher.boxes.length itemsInfoList (patcher.boxes.length + 1) := by
  obtain ⟨io, hio, s, hs, hres⟩ := addRnboObject_eq_ok.mp h
  obtain ⟨htb, htl, -⟩ := addParams_ok hs
  simp only [Prod.mk.injEq] at hres
  obtain ⟨rfl, rfl⟩ := hres
  exact ⟨io, s, hio, hs, rfl, by simp [Patcher.setSubpatcher, htb, List.set_append_right],
    by simp [Patcher.setSubpatcher, htl]⟩

theorem generateIoInfo_ok_iff (midi : Bool) (numInputs numOutputs : Nat) :
    (∃ io, generateIoInfo midi numInputs numOutputs = .ok io) ↔
      ¬(midi = true ∧ numInputs = 0 ∧ numOutputs = 0) := by
  cases midi
  · simp
  · rw [generateIoInfo_true]
    split_ifs with h <;> simp [h]

theorem generateIoInfo_error {midi : Bool} {numInputs numOutputs : Nat} {e : PyError}
    (h : generateIoInfo midi numInputs numOutputs = .error e) :
    e = .unboundLocal "i" ∧ midi = true ∧ numInputs = 0 ∧ numOutputs = 0 := by
  cases midi
  · simp [generateIoInfo] at h
  · rw [generateIoInfo_true] at h
    split_ifs at h with hc
    · cases h
      exact ⟨rfl, rfl, hc⟩

/-- The inputs on which `add_rnbo_object` does not raise: MIDI off or some audio channel, and
every parameter a button or checkbox or with a defined steps value. -/
def UnitOk (midi : Bool) (numInputs numOutputs : Nat) (itemsInfoList : List ItemInfo) : Prop :=
  ¬(midi = true ∧ numInputs = 0 ∧ numOutputs = 0) ∧ ∀ item ∈ itemsInfoList, StepOk item

theorem addRnboObject_succeeds_iff (patcher : Patcher Box) (dspName codeboxCode : String)
    (itemsInfoList : List ItemInfo) (midi : Bool) (nvoices : Int) (test : Bool)
    (numInputs numOutputs : Nat) :
    (∃ res, addRnboObject patcher dspName codeboxCode itemsInfoList midi nvoices test numInputs
        numOutputs = .ok res) ↔ UnitOk midi numInputs numOutputs itemsInfoList := by
  simp only [addRnboObject_eq_ok]
  constructor
  · rintro ⟨_, io, hio, s, hs, -⟩
    exact ⟨(generateIoInfo_ok_iff _ _ _).mp ⟨io, hio⟩, (addParams_ok_iff _ _ _).mp ⟨s, hs⟩⟩
  · rintro ⟨hio, hitems⟩
    obtain ⟨io, hio⟩ := (generateIoInfo_ok_iff _ _ _).mpr hio
    obtain ⟨s, hs⟩ := (addParams_ok_iff _ _ _).mpr hitems
    exact ⟨_, io, hio, s, hs, rfl⟩

/-- A call that raises raises in `generate_io_info` or in the parameter loop. -/
theorem addRnboObject_eq_error {patcher : Patcher Box} {dspName codeboxCode : String}
    {itemsInfoList : List ItemInfo} {midi : Bool} {nvoices : Int} {test : Bool}
    {numInputs numOutputs : Nat} {e : PyError}
    (h : addRnboObject patcher dspName codeboxCode itemsInfoList midi nvoices test numInputs
      numOutputs = .error e) :
    generateIoInfo midi numInputs numOutputs = .error e ∨
      ∃ c s, addParams c itemsInfoList s = .error e := by
  simp only [addRnboObject, bind, except_bind_eq_error, pure, Except.pure, reduceCtorEq,
    and_false, exists_false, or_false] at h
  rcases h with h | ⟨io, -, h⟩
  · exact .inl h
  · exact .inr ⟨_, _, h⟩

/-- **`add_rnbo_object` raises in exactly two cases.** It completes exactly when MIDI is off
or the unit has an input or an output, and every slider or entry has a defined steps value.
When it raises, it raises `UnboundLocalError` for the loop variable `i` that
`generate_io_info` reads unbound, with MIDI on and no channel, or else `ZeroDivisionError` or
`OverflowError` in the unused steps value of a parameter that fails its check. -/
theorem addRnboObject_ok_iff (patcher : Patcher Box) (dspName codeboxCode : String)
    (itemsInfoList : List ItemInfo) (midi : Bool) (nvoices : Int) (test : Bool)
    (numInputs numOutputs : Nat) :
    ((∃ res, addRnboObject patcher dspName codeboxCode itemsInfoList midi nvoices test numInputs
        numOutputs = .ok res) ↔
      ¬(midi = true ∧ numInputs = 0 ∧ numOutputs = 0) ∧ ∀ item ∈ itemsInfoList, StepOk item) ∧
    ∀ e, addRnboObject patcher dspName codeboxCode itemsInfoList midi nvoices test numInputs
        numOutputs = .error e →
      (e = .unboundLocal "i" ∧ midi = true ∧ numInputs = 0 ∧ numOutputs = 0) ∨
      ((e = .zeroDivision ∨ e = .overflow) ∧ ∃ item ∈ itemsInfoList, ¬StepOk item) := by
  refine ⟨addRnboObject_succeeds_iff patcher dspName codeboxCode itemsInfoList midi nvoices test
    numInputs numOutputs, fun e h => ?_⟩
  rcases addRnboObject_eq_error h with h | ⟨c, s, h⟩
  · exact .inl (generateIoInfo_error h)
  · refine .inr ⟨addParams_error h, ?_⟩
    by_contra hall
    push_neg at hall
    obtain ⟨s', hs'⟩ := (addParams_ok_iff c itemsInfoList s).mpr hall
    rw [h] at hs'
    cases hs'

end FaustRnbo
