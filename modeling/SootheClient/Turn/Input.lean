import SootheClient.Frame.Envelope
import SootheClient.Turn.Runner

/-!
# The input of a turn

`run_turn` sends a `loop_input` notification. Its params are written by `send_input`, or by an
input builder whose envelope is flattened; `input_message_for_loop` is such a builder, which trims
the options and leaves blank ones out.
-/

namespace SootheClient.Turn

open SootheClient.Frame
open Json (Members)

/-! ## The two encoders -/

/-- The members that `send_input` writes into the params. -/
def sendInputFields (text : String) (opts : SendInputOptions) : List (String × Option Json) :=
  [("content", some (.str text)), ("loop_id", opts.loopId.map .str),
    ("preferred_subagent", opts.preferredSubagent.map .str),
    ("intake_scope", opts.intakeScope.map .str), ("attachments", opts.attachments),
    ("intent_hint", opts.intentHint.map .str), ("response_schema", opts.responseSchema),
    ("response_schema_name", opts.responseSchemaName.map .str),
    ("response_schema_strict", opts.responseSchemaStrict.map .bool),
    ("interaction_mode", opts.interactionMode.map .str)]

/-- The params of `send_input`. -/
def sendInputParams (text : String) (opts : SendInputOptions) : Members :=
  Members.insertAll [] (sendInputFields text opts)

/-- An option without the white space around it, when it is not blank. -/
def trimmedOpt (o : Option String) : Option Json := (o.bind Text.nonBlank).map .str

/-- The members that `input_message_for_loop` writes into the params. -/
def loopInputFields (text loopId : String) (attachments : Option Json) (opts : Option InputOpts) :
    List (String × Option Json) :=
  [("content", some (.str text)),
    ("loop_id", if Text.trim loopId = "" then none else some (.str loopId)),
    ("attachments", attachments), ("intent_hint", trimmedOpt (opts.bind (·.intentHint))),
    ("preferred_subagent", trimmedOpt (opts.bind (·.preferredSubagent))),
    ("intake_scope", trimmedOpt (opts.bind (·.intakeScope))),
    ("interaction_mode", trimmedOpt (opts.bind (·.interactionMode))),
    ("response_schema", opts.bind (·.responseSchema)),
    ("response_schema_name", trimmedOpt (opts.bind (·.responseSchemaName))),
    ("response_schema_strict", (opts.bind (·.responseSchemaStrict)).map .bool)]

/-- What `input_message_for_loop` returns when the envelope is not an object. -/
def loopInputFallback (text loopId : String) : Members :=
  [("proto", .str PROTO_VERSION), ("type", .str "notification"), ("method", .str "loop_input"),
    ("params", .obj (Members.insertAll []
      [("content", some (.str text)),
        ("loop_id", if Text.trim loopId = "" then none else some (.str loopId))]))]

/-- Build a protocol-1 `loop_input` notification envelope. -/
def inputMessageForLoop (text loopId : String) (attachments : Option Json)
    (opts : Option InputOpts) : Members :=
  let params := Members.insertAll [] (loopInputFields text loopId attachments opts)
  (newNotification "loop_input" params).toValue.asObject?.getD (loopInputFallback text loopId)

/-- The params that go to the daemon. -/
def Effect.params : Effect → Members
  | .notify _ params => params
  | .sendInput text opts => sendInputParams text opts
  | _ => []

/-- The runner with `input_message_for_loop` as its builder. -/
def TurnRunner.withLoopInput (r : TurnRunner) : TurnRunner :=
  { r with inputBuilder := some inputMessageForLoop }

/-- The runner without a builder. -/
def TurnRunner.withSendInput (r : TurnRunner) : TurnRunner := { r with inputBuilder := none }

/-! ## What they write -/

variable {text loopId key : String} {attachments : Option Json} {opts : Option InputOpts}

/-- The names of the params. -/
def loopInputNames : List String :=
  ["content", "loop_id", "attachments", "intent_hint", "preferred_subagent", "intake_scope",
    "interaction_mode", "response_schema", "response_schema_name", "response_schema_strict"]

theorem loopInput_nodup (text loopId : String) (attachments : Option Json)
    (opts : Option InputOpts) :
    ((loopInputFields text loopId attachments opts).map Prod.fst).Nodup :=
  (by decide : loopInputNames.Nodup)

theorem sendInput_nodup {o : SendInputOptions} : ((sendInputFields text o).map Prod.fst).Nodup :=
  (by decide : ["content", "loop_id", "preferred_subagent", "intake_scope", "attachments",
    "intent_hint", "response_schema", "response_schema_name", "response_schema_strict",
    "interaction_mode"].Nodup)

/-- The params are under `params` in the envelope: they are never empty. -/
theorem inputMessageForLoop_eq : inputMessageForLoop text loopId attachments opts =
    [("proto", .str PROTO_VERSION), ("type", .str "notification"), ("method", .str "loop_input"),
      ("params", .obj (Members.insertAll [] (loopInputFields text loopId attachments opts)))] := by
  have hne : nonEmptyParams (Members.insertAll [] (loopInputFields text loopId attachments opts)) =
      some (Members.insertAll [] (loopInputFields text loopId attachments opts)) := by
    refine if_neg fun hc => ?_
    have hget :=
      Members.get_insertAll_nil (loopInput_nodup text loopId attachments opts) "content"
    rw [List.isEmpty_iff.1 hc] at hget
    exact absurd hget.symm (Option.some_ne_none _)
  unfold inputMessageForLoop newNotification
  simp only
  rw [hne]
  rfl

/-- Flattening the envelope gives the params back. -/
theorem flatten_get : Members.get
    ((inputMessageForLoop text loopId attachments opts).foldl TurnRunner.addParam []) key =
      ((loopInputFields text loopId attachments opts).lookup key).join := by
  rw [inputMessageForLoop_eq]
  have hfold : ([("proto", .str PROTO_VERSION), ("type", .str "notification"),
      ("method", .str "loop_input"),
      ("params", .obj (Members.insertAll [] (loopInputFields text loopId attachments opts)))] :
        Members).foldl TurnRunner.addParam [] =
      (Members.insertAll [] (loopInputFields text loopId attachments opts)).foldl
        (fun p kv => Members.insert p kv.1 kv.2) [] := rfl
  rw [hfold, Members.get_foldl_insert (Members.nodup_insertAll (m := []) List.nodup_nil),
    Members.get_insertAll_nil (loopInput_nodup text loopId attachments opts)]
  exact Option.or_none

/-! ## When they agree -/

/-- A string option that is absent, or neither blank nor padded with white space. -/
def PlainOpt (o : Option String) : Prop := ∀ s, o = some s → Text.trim s = s ∧ s ≠ ""

/-- Every string option is plain. -/
structure InputOpts.Plain (o : InputOpts) : Prop where
  intentHint : PlainOpt o.intentHint
  preferredSubagent : PlainOpt o.preferredSubagent
  intakeScope : PlainOpt o.intakeScope
  responseSchemaName : PlainOpt o.responseSchemaName
  interactionMode : PlainOpt o.interactionMode

/-- A plain option is what trimming leaves as it is. -/
theorem trimmedOpt_eq_iff {o : Option String} : trimmedOpt o = o.map .str ↔ PlainOpt o := by
  cases o with
  | none => exact ⟨fun _ => nofun, fun _ => rfl⟩
  | some s =>
    constructor
    · intro h t ht
      obtain rfl := Option.some.inj ht
      cases hb : Text.nonBlank s with
      | none =>
        have hnone : trimmedOpt (some s) = none := by
          unfold trimmedOpt
          rw [Option.bind_some, hb]
          rfl
        cases hnone.symm.trans h
      | some u =>
        have hsome : trimmedOpt (some s) = some (.str u) := by
          unfold trimmedOpt
          rw [Option.bind_some, hb]
          rfl
        obtain rfl : u = s := Json.str.inj (Option.some.inj (hsome.symm.trans h))
        exact Text.trimmed_of_nonBlank hb
    · intro h
      obtain ⟨htrim, hne⟩ := h s rfl
      unfold trimmedOpt
      rw [Option.bind_some, Text.nonBlank_of_trimmed htrim hne]

variable {r : TurnRunner} {call : TurnCall}

theorem withLoopInput_get : ((r.withLoopInput.sendEffect call loopId).params).get key =
    ((loopInputFields call.message loopId (r.sendAttachments call.attachments)
      call.opts).lookup key).join :=
  flatten_get

theorem withSendInput_get : ((r.withSendInput.sendEffect call loopId).params).get key =
    ((sendInputFields call.message
      { call.opts.getD {} with
        loopId := some loopId
        attachments := r.sendAttachments call.attachments }).lookup key).join :=
  Members.get_insertAll_nil sendInput_nodup _

/-- No options are the default ones. -/
theorem loopInputFields_getD : loopInputFields text loopId attachments opts =
    loopInputFields text loopId attachments (some (opts.getD {})) := by
  cases opts <;> rfl

/-- Plain options are written alike. -/
theorem InputOpts.Plain.fields {o : InputOpts} (h : o.Plain) (hloop : Text.trim loopId ≠ "") :
    ((loopInputFields text loopId attachments (some o)).lookup key).join =
      ((sendInputFields text { o with loopId := some loopId, attachments := attachments }).lookup
        key).join := by
  by_cases hkey : key ∈ loopInputNames
  · unfold loopInputNames at hkey
    simp only [List.mem_cons, List.not_mem_nil, or_false] at hkey
    rcases hkey with rfl | rfl | rfl | rfl | rfl | rfl | rfl | rfl | rfl | rfl
    · exact (rfl : _ = some (Json.str text)).trans rfl
    · unfold loopInputFields
      rw [if_neg hloop]
      exact (rfl : _ = some (Json.str loopId)).trans rfl
    · exact (rfl : _ = attachments).trans rfl
    · exact trimmedOpt_eq_iff.2 h.intentHint
    · exact trimmedOpt_eq_iff.2 h.preferredSubagent
    · exact trimmedOpt_eq_iff.2 h.intakeScope
    · exact trimmedOpt_eq_iff.2 h.interactionMode
    · exact (rfl : _ = o.responseSchema).trans rfl
    · exact trimmedOpt_eq_iff.2 h.responseSchemaName
    · exact (rfl : _ = o.responseSchemaStrict.map Json.bool).trans rfl
  · have hperm : List.Perm ["content", "loop_id", "preferred_subagent", "intake_scope",
        "attachments", "intent_hint", "response_schema", "response_schema_name",
        "response_schema_strict", "interaction_mode"] loopInputNames := by decide
    rw [Members.lookup_of_not_mem hkey,
      Members.lookup_of_not_mem fun hc => hkey (hperm.mem_iff.1 hc)]

/-- **The two encoders.** With `input_message_for_loop` as the builder, the params that are sent
are those of `send_input` exactly when every string option is plain. -/
theorem loop_input_agrees (r : TurnRunner) (call : TurnCall) (loopId : String)
    (hloop : Text.trim loopId ≠ "") :
    Members.Same (r.withLoopInput.sendEffect call loopId).params
        (r.withSendInput.sendEffect call loopId).params ↔
      ∀ o, call.opts = some o → o.Plain := by
  constructor
  · intro h o ho
    have hfield : ∀ key, ((loopInputFields call.message loopId (r.sendAttachments call.attachments)
        (some o)).lookup key).join = ((sendInputFields call.message
          { o with
            loopId := some loopId
            attachments := r.sendAttachments call.attachments }).lookup key).join := by
      intro key
      have hkey := h key
      rw [withLoopInput_get, withSendInput_get, ho] at hkey
      exact hkey
    exact
      { intentHint := trimmedOpt_eq_iff.1 (hfield "intent_hint")
        preferredSubagent := trimmedOpt_eq_iff.1 (hfield "preferred_subagent")
        intakeScope := trimmedOpt_eq_iff.1 (hfield "intake_scope")
        responseSchemaName := trimmedOpt_eq_iff.1 (hfield "response_schema_name")
        interactionMode := trimmedOpt_eq_iff.1 (hfield "interaction_mode") }
  · intro h key
    have hplain : (call.opts.getD {}).Plain := by
      cases hopts : call.opts with
      | none => exact ⟨nofun, nofun, nofun, nofun, nofun⟩
      | some o => exact h o hopts
    rw [withLoopInput_get, withSendInput_get, loopInputFields_getD]
    exact hplain.fields hloop

/-- A call with one attachment and an intent hint. -/
def hintCall (hint : String) : TurnCall where
  sessionId := "s"
  message := "describe it"
  attachments := some (.arr [.obj [("name", .str "notes.txt")]])
  opts := some { intentHint := some hint }

/-- A runner with the default classifier. -/
def defaultRunner : TurnRunner where
  classifier := EventClassifier.withDefaults
  fromStr := fun _ => none

/-- With a plain hint. -/
theorem loop_input_agrees_hint : Members.Same
    (defaultRunner.withLoopInput.sendEffect (hintCall "quiz") "L1").params
    (defaultRunner.withSendInput.sendEffect (hintCall "quiz") "L1").params := by
  refine (loop_input_agrees defaultRunner (hintCall "quiz") "L1" (by decide)).2 fun o ho => ?_
  obtain rfl := Option.some.inj ho
  refine ⟨fun s hs => ?_, nofun, nofun, nofun, nofun⟩
  obtain rfl := Option.some.inj hs
  exact ⟨by decide, by decide⟩

/-- A blank hint is sent by `send_input` only. -/
theorem loop_input_agrees_fails : ¬ ∀ (r : TurnRunner) (call : TurnCall) (loopId : String),
    Text.trim loopId ≠ "" → Members.Same (r.withLoopInput.sendEffect call loopId).params
      (r.withSendInput.sendEffect call loopId).params := by
  intro h
  have hint := h defaultRunner (hintCall "") "L1" (by decide) "intent_hint"
  rw [withLoopInput_get, withSendInput_get] at hint
  exact absurd hint.symm (Option.some_ne_none _)

end SootheClient.Turn
