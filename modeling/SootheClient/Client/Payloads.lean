import SootheClient.Client.Epochs
import SootheClient.Frame.Wire

/-!
# The values of a payload

What a reader routes of a text frame. Whatever the other tasks do meanwhile, the reader routes the
frames of the value that it decoded, in order; a payload of several values has more.
-/

namespace SootheClient.Client

open SootheClient.Frame
open Tasks

namespace ReaderPc

/-- The frames that the loop is still to route. -/
def left : ReaderPc → List Json
  | .routing msgs => msgs
  | .acking _ _ _ rest | .dispatching _ rest | .enqueueing _ rest => rest
  | .unspawned | .reading | .marking _ => []

/-- The frame that the loop takes to `route_inbound` next. -/
def next : ReaderPc → List Json
  | .routing (msg :: _) => [msg]
  | _ => []

end ReaderPc

namespace Tasks

/-- The frame that a step routes on the reader of `e`. -/
def routes (w : Tasks) (e : ℕ) (a : Label) : List Json :=
  if a.readerOf = some e then (w.reader e).next else []

/-- The frames that the reader of `e` routes in a run. -/
def routed (e : ℕ) (w : Tasks) : List Label → List Json
  | [] => []
  | a :: run => w.routes e a ++ (w.step a).elim [] fun w' => routed e w' run

end Tasks

variable {w w' : Tasks} {e : ℕ} {a : Label} {run : List Label}

/-- A reader at work is moved by its own steps only. -/
theorem reader_of_other (ho : Owned w) (hwork : (w.reader e).working = true)
    (ha : a.readerOf ≠ some e) (h : w.step a = some w') : w'.reader e = w.reader e := by
  cases taskStep_inv h with
  | call i op hfree =>
    rw [(start_moves hfree).reader]
  | step i event =>
    rcases callStep_cases h with ⟨-, -, rfl⟩ | ⟨e', hp, rfl⟩ | hm
    · rfl
    · obtain ⟨-, hun⟩ := ho.spawning i [] e' (spawns_eq_some.2 hp)
      have hne : e ≠ e' := by
        rintro rfl
        rw [hun] at hwork
        cases hwork
      rw [setPc_reader, setReader_reader_ne hne]
    · rw [hm.reader]
  | receive e' item => exact (receive_cases h).others e fun hee => ha (congrArg some hee.symm)
  | reader e' =>
    have hne : e ≠ e' := fun hee => ha (congrArg some hee.symm)
    rcases readerStep_cases h with hw | ⟨u, rest, -, rfl⟩
    · exact hw.others e hne
    · exact setReader_reader_ne hne
  | writerDown | register | unregister | readEvent => rfl

/-- **Step lemma.** A reader at work routes the next of its frames, or none. -/
theorem left_step (ho : Owned w) (hwork : (w.reader e).working = true)
    (ha : ∀ item, a ≠ .receive e item) (h : w.step a = some w') :
    (w'.reader e).working = true ∧ (w.reader e).left = w.routes e a ++ (w'.reader e).left := by
  unfold routes
  split_ifs with hown
  · cases a with
    | receive e' item =>
      obtain rfl : e' = e := Option.some.inj hown
      exact absurd rfl (ha item)
    | reader e' =>
      obtain rfl : e' = e := Option.some.inj hown
      cases readerStep_inv h with
      | turn hpc | settle _ _ _ hpc | ack _ _ _ _ _ hpc | hand _ _ _ hpc | miss _ _ hpc
      | enqueue _ _ hpc =>
        rw [hpc, setReader_reader_self]
        exact ⟨rfl, rfl⟩
      | route msg rest pc seqs hpc _ _ hnext =>
        rw [hpc, setReader_reader_self]
        obtain rfl | ⟨loopId, seq, rfl⟩ := hnext
        · exact ⟨rfl, rfl⟩
        · exact ⟨rfl, rfl⟩
      | mark u rest hpc =>
        rw [hpc] at hwork
        cases hwork
    | call | step | writerDown | register | unregister | readEvent => cases hown
  · rw [reader_of_other ho hwork hown h]
    exact ⟨hwork, rfl⟩

/-- **Run lemma.** What a reader at work was to route, it has routed, or is still to route. -/
theorem left_run (ho : Owned w) (hwork : (w.reader e).working = true)
    (hown : ∀ a ∈ run, ∀ item, a ≠ .receive e item) (h : Lts.exec Tasks.step w run = some w') :
    (w.reader e).left = w.routed e run ++ (w'.reader e).left := by
  induction run generalizing w with
  | nil =>
    obtain rfl := Option.some.inj h
    rfl
  | cons a run ih =>
    obtain ⟨w₁, hw₁, h⟩ := Lts.exec_cons_eq_some.1 h
    obtain ⟨hwork', hleft⟩ := left_step ho hwork (hown a List.mem_cons_self) hw₁
    have hrest := ih (ho.step hw₁) hwork' (fun b hb => hown b (List.mem_cons_of_mem a hb)) h
    unfold routed
    rw [hleft, hrest, hw₁, List.append_assoc]
    rfl

theorem owned_of_exec (h : Lts.exec Tasks.step {} run = some w) : Owned w :=
  Lts.inv_of_exec (fun _ _ _ ho hs => ho.step hs) owned_init h

theorem step_receive {raw : Json} (hread : w.reader e = .reading) :
    w.step (.receive e (.text (some raw))) =
      some (w.setReader e (.routing (expandWireMessages raw))) := by
  unfold Tasks.step
  simp only [hread]
  rfl

/-- A reader routes the frames of the value that it decoded. -/
theorem routed_receive {raw : Json} (ho : Owned w) (hread : w.reader e = .reading)
    (hown : ∀ a ∈ run, ∀ item, a ≠ .receive e item)
    (h : Lts.exec Tasks.step w (.receive e (.text (some raw)) :: run) = some w')
    (hread' : w'.reader e = .reading) :
    w.routed e (.receive e (.text (some raw)) :: run) = expandWireMessages raw := by
  have hrecv : w.step (.receive e (.text (some raw))) =
      some (w.setReader e (.routing (expandWireMessages raw))) := step_receive hread
  rw [Lts.exec_cons_of_step hrecv] at h
  have hleft := left_run (ho.step hrecv) (by rw [setReader_reader_self]; rfl) hown h
  rw [setReader_reader_self, hread'] at hleft
  have hroutes : w.routes e (.receive e (.text (some raw))) = [] := by
    unfold routes
    rw [hread]
    exact ite_self _
  unfold routed
  rw [hroutes, hrecv]
  exact (List.append_nil _).symm.trans hleft.symm

/-- **Payloads.** The lines of a payload are those of its values. A reader that takes the payload
off its socket, and reads again after any steps of the tasks, has routed exactly the frames of all
the values when there is one value, and only then. -/
theorem payload_routed_iff (fromStr : String → Option Json) (print : Json → String)
    (vs : List Json) (hne : vs ≠ []) (hinv : ∀ v ∈ vs, fromStr (print v) = some v)
    (text : String) (htext : IsPayload print vs text) (before : List Label) (w : Tasks)
    (hw : Lts.exec Tasks.step {} before = some w) (e : ℕ) (hread : w.reader e = .reading)
    (run : List Label) (hown : ∀ a ∈ run, ∀ item, a ≠ .receive e item) (w' : Tasks)
    (hrun : Lts.exec Tasks.step w (.receive e (.text (decodeMessage fromStr text)) :: run) =
      some w') (hread' : w'.reader e = .reading) :
    (splitWirePayload text).filterMap fromStr = vs ∧
      (w.routed e (.receive e (.text (decodeMessage fromStr text)) :: run) =
        vs.flatMap expandWireMessages ↔ vs.length = 1) := by
  constructor
  · rw [htext.split, List.filterMap_map]
    calc vs.filterMap (fromStr ∘ print)
        = vs.filterMap some := List.filterMap_congr hinv
      _ = vs := List.filterMap_some
  · obtain ⟨v, rest, rfl⟩ := List.exists_cons_of_ne_nil hne
    rw [htext.decode (hinv v List.mem_cons_self)] at hrun ⊢
    rw [routed_receive (owned_of_exec hw) hread hown hrun hread', expand_eq_iff, List.length_cons,
      Nat.add_eq_right, List.length_eq_zero_iff]

/-- A frame with a type and no more. -/
def typed (t : String) : Json := .obj [("type", .str t)]

/-- A frame with its type, as the compact printer gives it. -/
def printTyped (v : Json) : String := "\x7b\"type\":\"" ++ v.getStrD "type" ++ "\"\x7d"

/-- The parser on the texts of a ping and a pong. -/
def readTyped (s : String) : Option Json :=
  if s = printTyped (typed "ping") then some (typed "ping")
  else if s = printTyped (typed "pong") then some (typed "pong")
  else none

/-- A connection is dialed, and its tasks are spawned. -/
def dialed : List Label := [.call 0 .connect, .step 0 .next, .step 0 .dialed] ++
  List.replicate 6 (.step 0 .next)

theorem readTyped_ping : readTyped (printTyped (typed "ping")) = some (typed "ping") := if_pos rfl

theorem readTyped_pong : readTyped (printTyped (typed "pong")) = some (typed "pong") :=
  (if_neg (by decide)).trans (if_pos rfl)

theorem payload_ping : IsPayload printTyped [typed "ping"] "\n \x7b\"type\":\"ping\"\x7d\n" :=
  ⟨["", " \x7b\"type\":\"ping\"\x7d", ""], by decide, by decide, by decide +kernel,
    by decide +kernel⟩

theorem payload_ping_pong : IsPayload printTyped [typed "ping", typed "pong"]
    "\x7b\"type\":\"ping\"\x7d\n\x7b\"type\":\"pong\"\x7d" :=
  ⟨[printTyped (typed "ping"), printTyped (typed "pong")], by decide, by decide, by decide +kernel,
    by decide +kernel⟩

/-- The reader of a dialed connection takes a ping off its socket and answers it. -/
theorem answers_ping : ∃ w w', Lts.exec Tasks.step {} dialed = some w ∧
    w.reader 0 = .reading ∧
    Lts.exec Tasks.step w [.receive 0 (.text (some (typed "ping"))), .reader 0, .reader 0] =
      some w' ∧ w'.reader 0 = .reading := by
  have hdial : (Lts.exec Tasks.step {} dialed).map (fun w => w.reader 0) = some .reading := rfl
  obtain ⟨w, hw, hread⟩ := Option.map_eq_some_iff.1 hdial
  have hping : (Lts.exec Tasks.step {} (dialed ++ [.receive 0 (.text (some (typed "ping"))),
      .reader 0, .reader 0])).map (fun w => w.reader 0) = some .reading := rfl
  obtain ⟨w', hw', hread'⟩ := Option.map_eq_some_iff.1 hping
  rw [Lts.exec_append_of_exec hw] at hw'
  exact ⟨w, w', hw, hread, hw', hread'⟩

/-- A ping between blank lines is routed. -/
theorem payload_routed_ping : ∃ w, Lts.exec Tasks.step {} dialed = some w ∧
    w.routed 0 [.receive 0 (.text (decodeMessage readTyped
      "\n \x7b\"type\":\"ping\"\x7d\n")), .reader 0, .reader 0] = [typed "ping"] := by
  obtain ⟨w, w', hw, hread, hrun, hread'⟩ := answers_ping
  have hinv : ∀ v ∈ [typed "ping"], readTyped (printTyped v) = some v := by
    intro v hv
    obtain rfl := List.mem_singleton.1 hv
    exact readTyped_ping
  have hdec := payload_ping.decode readTyped_ping
  refine ⟨w, hw, ?_⟩
  exact (payload_routed_iff readTyped printTyped [typed "ping"] (List.cons_ne_nil _ _) hinv _
    payload_ping dialed w hw 0 hread [.reader 0, .reader 0] (by simp) w' (by rw [hdec]; exact hrun)
    hread').2.2 rfl

/-- Of a ping and a pong in one text only the ping is routed. -/
theorem payload_routed_fails : ¬ ∀ (fromStr : String → Option Json) (print : Json → String)
    (vs : List Json), vs ≠ [] → (∀ v ∈ vs, fromStr (print v) = some v) →
    ∀ text, IsPayload print vs text → ∀ before w, Lts.exec Tasks.step {} before = some w →
      ∀ e, w.reader e = .reading → ∀ run, (∀ a ∈ run, ∀ item, a ≠ .receive e item) →
        ∀ w', Lts.exec Tasks.step w (.receive e (.text (decodeMessage fromStr text)) :: run) =
          some w' → w'.reader e = .reading →
            w.routed e (.receive e (.text (decodeMessage fromStr text)) :: run) =
              vs.flatMap expandWireMessages := by
  intro h
  obtain ⟨w, w', hw, hread, hrun, hread'⟩ := answers_ping
  have hinv : ∀ v ∈ [typed "ping", typed "pong"], readTyped (printTyped v) = some v := by
    intro v hv
    rcases List.mem_pair.1 hv with rfl | rfl
    · exact readTyped_ping
    · exact readTyped_pong
  have hdec := payload_ping_pong.decode readTyped_ping
  have hall := h readTyped printTyped _ (List.cons_ne_nil _ _) hinv _ payload_ping_pong dialed w hw
    0 hread [.reader 0, .reader 0] (by simp) w' (by rw [hdec]; exact hrun) hread'
  rw [hdec, routed_receive (owned_of_exec hw) hread (by simp) hrun hread'] at hall
  exact List.cons_ne_nil _ _ (expand_eq_iff.1 hall)

end SootheClient.Client
