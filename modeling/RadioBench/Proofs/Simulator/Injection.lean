/-
Failures that are asked for.

A name can be armed, and the next call of that name fails.  Of what a simulator keeps, this is
about four things: the calls on record, the armed names, the handler and the journal.  They are
the books, and what a call is about never shows in them.

Every request that can be made to fail goes through `attempt`, once and under its own name, and
what follows in it leaves the books alone and has no error that could be taken for a rejection.
`injects_perform` goes through the requests to see that, `booked_of_does` says what one deed enters
in the books, and `session_injects` what a whole session does.
-/
import RadioBench.Proofs.Simulator.Effect

namespace RadioBench

/-- The name under which a request is recorded. -/
def Request.recorded? : Request → Option String
  | .libraryVersion => none
  | r => some r.name

/-- The name under which a request can be made to fail. -/
def Request.attempted? : Request → Option String
  | .libraryVersion => none
  | .registerLog _ => none
  | r => some r.name

theorem Request.recorded?_of_attempted? {r : Request} {name : String}
    (h : r.attempted? = some name) : r.recorded? = some name := by
  cases r with
  | libraryVersion => cases h
  | registerLog handler => cases h
  | _ => exact h

namespace Simulator

open Step

variable {s t : State} {name : String}

/-- What a handler is told of a call that was made to fail. -/
def rejectionText (name : String) : String := name ++ " rejected by device"

/-- The error of a call that was made to fail. -/
def rejection (name : String) : Error := .failed name (rejectionText name)

/-! ## The books -/

structure Books where
  calls : Array String
  armed : List String
  handler : Option LogHandler
  journal : Journal

def State.books (s : State) : Books := ⟨s.calls, s.armed, s.handler, s.journal⟩

theorem State.handler_rejected (s : State) (name : String) :
    (s.rejected name).handler = s.handler := by
  obtain ⟨journal, heq⟩ := s.rejected_eq name
  rw [heq]
  rfl

theorem State.calls_rejected (s : State) (name : String) :
    (s.rejected name).calls = s.calls.push name := by
  obtain ⟨journal, heq⟩ := s.rejected_eq name
  rw [heq]
  rfl

/-- The handler is told once, if there is one. -/
theorem State.journal_rejected (s : State) (name : String) :
    (s.rejected name).journal.toList =
      s.journal.toList ++ s.handler.toList.map (·.deliver .error (rejectionText name)) := by
  unfold State.rejected
  cases s.handler with
  | none => exact (List.append_nil _).symm
  | some handler => exact Array.toList_push

/-! ## One call -/

/-- What comes of a call of a name.  Either the name was armed, and the call is rejected; or it was
not, and the books only show the call. -/
inductive Injects (name : String) (s : State) : Option Error → State → Prop
  | rejected (harmed : name ∈ s.armed) : Injects name s (some (rejection name)) (s.rejected name)
  | passed {failure : Option Error} {t : State} (hfree : name ∉ s.armed)
      (hother : failure ≠ some (rejection name)) (hbooks : t.books = (s.recorded name).books) :
      Injects name s failure t

/-- The step leaves the books alone, and its errors are none of rejection. -/
structure Blameless {α : Type} (name : String) (f : Step α) : Prop where
  books : ∀ s, (f s).2.books = s.books
  other : ∀ s, failureOf (f s).1 ≠ some (rejection name)

section Steps

variable {α : Type}

theorem blameless_done (a : α) : Blameless name (done a) where
  books _ := rfl
  other _ := nofun

theorem accepted_ne (a : α) (name : String) :
    failureOf (.ok a : Except Error α) ≠ some (rejection name) := nofun

theorem invalidHandle_ne (name : String) :
    failureOf (.error .invalidHandle : Except Error α) ≠ some (rejection name) := nofun

theorem blameless_fail {e : Error} (h : e ≠ rejection name) :
    Blameless name (fail e : Step α) where
  books _ := rfl
  other _ := fun heq => h (Option.some.inj heq)

theorem injects_attempt {body : Step α} (h : Blameless name body) (s : State) :
    Injects name s (failureOf (attempt name body s).1) (attempt name body s).2 := by
  by_cases harmed : name ∈ s.armed
  · rw [attempt_of_armed harmed]
    exact .rejected harmed
  · rw [attempt_of_not_armed harmed]
    exact .passed harmed (h.other _) (h.books _)

theorem injects_onDevice {d : DeviceHandle} {body : Step α} (h : Blameless name body) (s : State) :
    Injects name s (failureOf (onDevice name d body s).1) (onDevice name d body s).2 := by
  refine injects_attempt ⟨fun u => ?_, fun u => ?_⟩ s
  · by_cases hopen : d ∈ u.devices
    · rw [if_pos hopen]
      exact h.books u
    · rw [if_neg hopen]
  · by_cases hopen : d ∈ u.devices
    · rw [if_pos hopen]
      exact h.other u
    · rw [if_neg hopen]
      exact invalidHandle_ne name

theorem injects_onChannel {d : DeviceHandle} {ch : ChannelId}
    {body : ChannelState → Except Error α × ChannelState}
    (h : ∀ x, failureOf (body x).1 ≠ some (rejection name)) (s : State) :
    Injects name s (failureOf (onChannel name d ch body s).1) (onChannel name d ch body s).2 :=
  injects_onDevice ⟨fun _ => rfl, fun u => h (u.channelState d ch)⟩ s

theorem injects_onStream {n : StreamHandle} {body : StreamState → Step α}
    (h : ∀ st, Blameless name (body st)) (s : State) :
    Injects name s (failureOf (onStream name n body s).1) (onStream name n body s).2 := by
  refine injects_attempt ⟨fun u => ?_, fun u => ?_⟩ s
  · cases u.streams.find? n with
    | none => rfl
    | some st => exact (h st).books u
  · cases u.streams.find? n with
    | none => exact invalidHandle_ne name
    | some st => exact (h st).other u

end Steps

/-! ## The requests -/

/-- A text that begins otherwise is another text, whatever follows. -/
theorem append_ne_of_other_start {a b c : String} (h : ¬ a.toList <+: c.toList) : a ++ b ≠ c := by
  intro heq
  have hlist : a.toList ++ b.toList = c.toList := by rw [← String.toList_append, heq]
  exact h ⟨b.toList, hlist⟩

theorem failed_ne_rejection {operation message : String} (h : message ≠ rejectionText name) :
    Error.failed operation message ≠ rejection name := by
  intro heq
  exact h (Error.failed.inj heq).2

theorem failed_ne {α : Type} {operation message : String} (h : message ≠ rejectionText name) :
    failureOf (.error (.failed operation message) : Except Error α) ≠ some (rejection name) := by
  intro heq
  exact failed_ne_rejection h (Option.some.inj heq)

/-- A call on a channel that looks at its argument. -/
theorem injects_guarded {α : Type} {d : DeviceHandle} {ch : ChannelId} {p : Prop} [Decidable p]
    {operation message : String} {value : α} {f : ChannelState → ChannelState}
    (h : message ≠ rejectionText name) (s : State) :
    Injects name s
      (failureOf (onChannel name d ch (fun x =>
        if p then (.error (.failed operation message), x) else (.ok value, f x)) s).1)
      (onChannel name d ch (fun x =>
        if p then (.error (.failed operation message), x) else (.ok value, f x)) s).2 := by
  refine injects_onChannel (fun x => ?_) s
  split
  · exact failed_ne h
  · exact accepted_ne _ _

theorem injects_deviceCall (d : DeviceHandle) (c : DeviceCall) (s : State) :
    Injects c.name s (failureOf (deviceCall d c s).1) (deviceCall d c s).2 := by
  cases c <;> exact injects_onDevice ⟨fun _ => rfl, fun _ => accepted_ne _ _⟩ s

theorem injects_channelCall (d : DeviceHandle) (ch : ChannelId) (c : ChannelCall) (s : State) :
    Injects c.name s (failureOf (channelCall d ch c s).1) (channelCall d ch c s).2 := by
  cases c with
  | sampleRate => exact injects_onDevice ⟨fun _ => rfl, fun _ => accepted_ne _ _⟩ s
  | antennaList => exact injects_onDevice ⟨fun _ => rfl, fun _ => accepted_ne _ _⟩ s
  | setAntenna index =>
    -- the call is recorded in one place or in the other, so never twice
    dsimp only [channelCall]
    by_cases hindex : antennas.length ≤ index
    · rw [if_pos hindex]
      have hother : "no antenna " ++ toString index ≠ rejectionText "set_antenna" :=
        append_ne_of_other_start (by decide)
      exact injects_attempt (blameless_fail (failed_ne_rejection hother)) s
    · rw [if_neg hindex]
      exact injects_onChannel (fun _ => accepted_ne _ _) s
  | setNcoIndex index downconvert =>
    have hother : "index out of range" ≠ rejectionText "set_nco_index" := by decide
    exact injects_guarded hother s
  | setGfirCoeff filter values =>
    have hother : "too many coefficients" ≠ rejectionText "set_gfir_coeff" := by decide
    exact injects_guarded hother s
  | _ => exact injects_onChannel (fun _ => accepted_ne _ _) s

theorem injects_openDevice (info : String) (s : State) :
    Injects "open" s (failureOf (openDevice info s).1) (openDevice info s).2 := by
  refine injects_attempt ⟨fun u => ?_, fun u => ?_⟩ s
  · by_cases hinfo : info ∈ u.listed
    · rw [if_pos hinfo]
      rfl
    · rw [if_neg hinfo]
  · by_cases hinfo : info ∈ u.listed
    · rw [if_pos hinfo]
      exact accepted_ne _ _
    · rw [if_neg hinfo]
      exact failed_ne (append_ne_of_other_start (by decide))

theorem injects_destroyStream (d : DeviceHandle) (n : StreamHandle) (s : State) :
    Injects "destroy_stream" s (failureOf (destroyStream d n s).1) (destroyStream d n s).2 := by
  refine injects_onDevice ⟨fun u => ?_, fun u => ?_⟩ s
  · cases u.streams.find? n with
    | none => rfl
    | some st =>
      dsimp only
      split <;> rfl
  · cases u.streams.find? n with
    | none => exact invalidHandle_ne _
    | some st =>
      dsimp only
      split
      · exact failed_ne (by decide)
      · exact accepted_ne _ _

theorem injects_recvStream (n : StreamHandle) (buffer : SampleBuffer) (timeout : Duration)
    (s : State) :
    Injects "recv_stream" s (failureOf (recvStream n buffer timeout s).1)
      (recvStream n buffer timeout s).2 := by
  refine injects_onStream (fun st => ⟨fun u => ?_, fun u => ?_⟩) s
  · dsimp only [State.advance]
    split
    · rfl
    split
    · rfl
    split
    · cases u.clock.add? timeout <;> rfl
    · cases u.clock.add? u.readLatency <;> rfl
  · dsimp only [State.advance]
    split
    · exact failed_ne (by decide)
    split
    · exact nofun
    split
    · cases u.clock.add? timeout <;> exact nofun
    · cases u.clock.add? u.readLatency <;> exact nofun

theorem injects_sendStream (n : StreamHandle) (buffer : SampleBuffer) (count : Nat) (s : State) :
    Injects "send_stream" s (failureOf (sendStream n buffer count s).1)
      (sendStream n buffer count s).2 := by
  refine injects_onStream (fun st => ?_) s
  by_cases hformat : st.config.dataFormat ≠ buffer.format
  · rw [if_pos hformat]
    exact blameless_fail (by decide)
  · rw [if_neg hformat]
    split
    · exact blameless_done _
    · exact blameless_done _

theorem failure_perform_recvStream (n : StreamHandle) (buffer : SampleBuffer)
    (info : Option StreamMeta) (timeout : Duration) (s : State) :
    failureOf (perform (.recvStream n buffer info timeout) s).1.result =
      failureOf (recvStream n buffer timeout s).1 := by
  dsimp only [perform]
  generalize recvStream n buffer timeout s = x
  obtain ⟨(e | ⟨count, stamp⟩), t⟩ := x <;> rfl

theorem injects_perform {r : Request} (h : r.attempted? = some name) (s : State) :
    Injects name s (r.failure? (perform r s).1) (perform r s).2 := by
  cases r with
  | libraryVersion => cases h
  | registerLog handler => cases h
  | deviceList =>
    cases h
    exact injects_attempt ⟨fun _ => rfl, fun _ => accepted_ne _ _⟩ s
  | openDevice info =>
    cases h
    exact injects_openDevice info s
  | closeDevice d =>
    cases h
    exact injects_onDevice ⟨fun _ => rfl, fun _ => accepted_ne _ _⟩ s
  | device d c =>
    cases h
    exact injects_deviceCall d c s
  | channel d ch c =>
    cases h
    exact injects_channelCall d ch c s
  | setupStream d config =>
    cases h
    exact injects_onDevice ⟨fun _ => rfl, fun _ => accepted_ne _ _⟩ s
  | destroyStream d n =>
    cases h
    exact injects_destroyStream d n s
  | startStream n =>
    cases h
    exact injects_onStream (fun _ => ⟨fun _ => rfl, fun _ => accepted_ne _ _⟩) s
  | stopStream n =>
    cases h
    exact injects_onStream (fun _ => ⟨fun _ => rfl, fun _ => accepted_ne _ _⟩) s
  | recvStream n buffer info timeout =>
    cases h
    rw [perform_recvStream_snd]
    rw [Request.failure?, failure_perform_recvStream]
    exact injects_recvStream n buffer timeout s
  | sendStream n buffer count info timeout =>
    cases h
    exact injects_sendStream n buffer count s
  | streamStatus n =>
    cases h
    exact injects_onStream (fun _ => ⟨fun _ => rfl, fun _ => accepted_ne _ _⟩) s

/-! ## One deed -/

namespace Deed

/-- The name under which the deed is recorded. -/
def recorded? : Deed → Option String
  | .served r _ => r.recorded?
  | _ => none

/-- The name whose arming the deed uses up. -/
def attempted? : Deed → Option String
  | .served r _ => r.attempted?
  | _ => none

def armed? : Deed → Option String
  | .armed name => some name
  | _ => none

/-- The handler that the deed registers, which may be none. -/
def registered? : Deed → Option (Option LogHandler)
  | .served (.registerLog handler) _ => some handler
  | _ => none

/-- The name under which the deed is rejected, by the answer that it gets. -/
def rejected? : Deed → Option String
  | .served r a => r.attempted?.filter fun name => decide (r.failure? a = some (rejection name))
  | _ => none

/-- What the deed enters in the journal when the handler is the given one: the message of a
rejection, or what is noted by somebody else. -/
def entries (handler : Option LogHandler) : Deed → List Entry
  | .noted e => [e]
  | .served r a => (served r a).rejected?.toList.flatMap fun name =>
      handler.toList.map (·.deliver .error (rejectionText name))
  | _ => []

end Deed

/-- What the books show of a deed. -/
structure Booked (s : State) (e : Deed) (t : State) : Prop where
  calls : t.calls.toList = s.calls.toList ++ e.recorded?.toList
  armed : ∀ name, name ∈ t.armed ↔
    e.armed? = some name ∨ name ∈ s.armed ∧ e.attempted? ≠ some name
  handler : t.handler = e.registered?.getD s.handler
  journal : t.journal.toList = s.journal.toList ++ e.entries s.handler
  rejected : ∀ name, e.rejected? = some name ↔ e.attempted? = some name ∧ name ∈ s.armed

section Requests

variable {r : Request} {a : r.Answer}

theorem rejected?_of_attempted? (h : r.attempted? = some name) :
    (Deed.served r a).rejected? =
      if r.failure? a = some (rejection name) then some name else none := by
  rw [Deed.rejected?, h, Option.filter_some]
  simp

theorem registered?_of_attempted? (h : r.attempted? = some name) :
    (Deed.served r a).registered? = none := by
  cases r with
  | registerLog handler => cases h
  | _ => rfl

/-- The call fails, its name is armed no more, and the handler is told. -/
theorem booked_of_rejected (hname : r.attempted? = some name)
    (hfailed : r.failure? a = some (rejection name)) (harmed : name ∈ s.armed) :
    Booked s (.served r a) (s.rejected name) := by
  have hrejected : (Deed.served r a).rejected? = some name := by
    rw [rejected?_of_attempted? hname, if_pos hfailed]
  exact {
    calls := by
      rw [s.calls_rejected, Array.toList_push, Deed.recorded?,
        Request.recorded?_of_attempted? hname]
      rfl
    armed := fun name' => by
      have hattempted : (Deed.served r a).attempted? = some name := hname
      rw [s.armed_rejected, hattempted, List.mem_filter]
      simp only [Deed.armed?, reduceCtorEq, false_or, decide_eq_true_eq, ne_eq,
        Option.some.injEq, eq_comm (a := name)]
    handler := by
      rw [s.handler_rejected, registered?_of_attempted? hname]
      rfl
    journal := by
      rw [s.journal_rejected, Deed.entries, hrejected]
      simp
    rejected := fun name' => by
      rw [hrejected, Deed.attempted?, hname]
      constructor
      · intro heq
        cases heq
        exact ⟨rfl, harmed⟩
      · exact fun h => h.1 }

/-- The call goes through, and all that is written down is that it was made. -/
theorem booked_of_passed (hname : r.attempted? = some name)
    (hother : r.failure? a ≠ some (rejection name)) (hfree : name ∉ s.armed)
    (hbooks : t.books = (s.recorded name).books) : Booked s (.served r a) t := by
  obtain ⟨hcalls, harmed, hhandler, hjournal⟩ := Books.mk.inj hbooks
  have hrejected : (Deed.served r a).rejected? = none := by
    rw [rejected?_of_attempted? hname, if_neg hother]
  have hattempted : (Deed.served r a).attempted? = some name := hname
  exact {
    calls := by
      rw [hcalls, Deed.recorded?, Request.recorded?_of_attempted? hname]
      exact Array.toList_push
    armed := fun name' => by
      rw [harmed, hattempted]
      have hne (hmem : name' ∈ s.armed) : name ≠ name' := fun heq => hfree (heq ▸ hmem)
      simp only [Deed.armed?, reduceCtorEq, false_or, ne_eq, Option.some.injEq]
      exact ⟨fun hmem => ⟨hmem, hne hmem⟩, fun h => h.1⟩
    handler := by
      rw [hhandler, registered?_of_attempted? hname]
      rfl
    journal := by
      rw [hjournal, Deed.entries, hrejected]
      exact (List.append_nil _).symm
    rejected := fun name' => by
      rw [hrejected, hattempted]
      constructor
      · exact nofun
      · intro h
        cases h.1
        exact absurd h.2 hfree }

end Requests

/-- A deed that calls nothing, arms nothing, registers nothing and notes nothing leaves the books
alone. -/
theorem booked_of_books {e : Deed} (hrecorded : e.recorded? = none)
    (hattempted : e.attempted? = none) (harmed : e.armed? = none)
    (hregistered : e.registered? = none) (hrejected : e.rejected? = none)
    (hentries : ∀ handler, e.entries handler = []) (h : t.books = s.books) : Booked s e t := by
  obtain ⟨hcalls, harmed', hhandler, hjournal⟩ := Books.mk.inj h
  exact {
    calls := by rw [hcalls, hrecorded]; exact (List.append_nil _).symm
    armed := fun name => by simp [harmed', harmed, hattempted]
    handler := by rw [hhandler, hregistered]; rfl
    journal := by rw [hjournal, hentries, List.append_nil]
    rejected := fun name => by simp [hrejected, hattempted] }

theorem booked_perform {r : Request} {a : r.Answer} (h : perform r s = (a, t)) :
    Booked s (.served r a) t := by
  cases hname : r.attempted? with
  | some name =>
    have hinjects := injects_perform hname s
    rw [h] at hinjects
    dsimp only at hinjects
    generalize hfailure : r.failure? a = failure at hinjects
    cases hinjects with
    | rejected harmed => exact booked_of_rejected hname hfailure harmed
    | passed hfree hother hbooks =>
      exact booked_of_passed hname (hfailure ▸ hother) hfree hbooks
  | none =>
    -- the query for the version and the registration of a handler, which cannot be made to fail
    cases r with
    | libraryVersion =>
      cases h
      exact booked_of_books rfl rfl rfl rfl rfl (fun _ => rfl) rfl
    | registerLog handler =>
      cases h
      exact {
        calls := Array.toList_push
        armed := fun name => by simp [Deed.armed?, Deed.attempted?, Request.attempted?]
        handler := rfl
        journal := (List.append_nil _).symm
        rejected := fun name => by simp [Deed.rejected?, Deed.attempted?, Request.attempted?] }
    | _ => cases hname

theorem booked_arm (s : State) (name : String) : Booked s (.armed name) (s.arm name) := by
  have hfields : (s.arm name).calls = s.calls ∧ (s.arm name).handler = s.handler ∧
      (s.arm name).journal = s.journal ∧ ∀ name', name' ∈ (s.arm name).armed ↔
        name = name' ∨ name' ∈ s.armed := by
    rw [State.arm]
    by_cases hmem : name ∈ s.armed
    · rw [if_pos hmem]
      refine ⟨rfl, rfl, rfl, fun name' => ⟨.inr, fun h => ?_⟩⟩
      exact h.elim (fun heq => heq ▸ hmem) id
    · rw [if_neg hmem]
      exact ⟨rfl, rfl, rfl, fun name' => by simp [eq_comm]⟩
  obtain ⟨hcalls, hhandler, hjournal, harmed⟩ := hfields
  exact {
    calls := by rw [hcalls]; exact (List.append_nil _).symm
    armed := fun name' => by simp [harmed, Deed.armed?, Deed.attempted?]
    handler := hhandler
    journal := by rw [hjournal]; exact (List.append_nil _).symm
    rejected := fun name' => by simp [Deed.rejected?, Deed.attempted?] }

theorem booked_of_does {e : Deed} (h : Does e s t) : Booked s e t := by
  cases e with
  | served r a => exact booked_perform h
  | armed name => exact h ▸ booked_arm s name
  | delayed latency =>
    have hbooks : t.books = s.books := by rw [show t = s.setReadLatency latency from h]; rfl
    exact booked_of_books rfl rfl rfl rfl rfl (fun _ => rfl) hbooks
  | starved on =>
    have hbooks : t.books = s.books := by rw [show t = s.setStarved on from h]; rfl
    exact booked_of_books rfl rfl rfl rfl rfl (fun _ => rfl) hbooks
  | advanced span outcome =>
    have hbooks : t.books = s.books := by
      rw [show t = (s.advance span).2 by rw [show s.advance span = (outcome, t) from h],
        State.advance]
      cases s.clock.add? span <;> rfl
    exact booked_of_books rfl rfl rfl rfl rfl (fun _ => rfl) hbooks
  | noted e =>
    rw [show t = s.note e from h]
    exact {
      calls := (List.append_nil _).symm
      armed := fun name => by simp [State.note, Deed.armed?, Deed.attempted?]
      handler := rfl
      journal := Array.toList_push
      rejected := fun name => by simp [Deed.rejected?, Deed.attempted?] }

/-! ## Sessions -/

/-- The name was armed, at least once, since it was last called. -/
def Pending (name : String) (deeds : List Deed) : Prop :=
  ∃ front rest, deeds = front ++ .armed name :: rest ∧ ∀ e ∈ rest, e.attempted? ≠ some name

theorem not_pending_nil (name : String) : ¬ Pending name [] := by
  intro h
  obtain ⟨front, rest, heq, -⟩ := h
  simp at heq

theorem pending_concat {deeds : List Deed} {e : Deed} :
    Pending name (deeds ++ [e]) ↔
      e.armed? = some name ∨ Pending name deeds ∧ e.attempted? ≠ some name := by
  constructor
  · intro h
    obtain ⟨front, rest, heq, hrest⟩ := h
    rcases List.eq_nil_or_concat rest with rfl | ⟨rest, last, rfl⟩
    · have he : e = .armed name := (List.append_inj' heq rfl).2 |> List.singleton_inj.mp
      exact .inl (he ▸ rfl)
    · rw [List.concat_eq_append, ← List.cons_append, ← List.append_assoc] at heq
      have hdeeds : deeds = front ++ .armed name :: rest := (List.append_inj' heq rfl).1
      have he : e = last := List.singleton_inj.mp (List.append_inj' heq rfl).2
      refine .inr ⟨⟨front, rest, hdeeds, fun x hx => hrest x (by simp [hx])⟩, ?_⟩
      exact he ▸ hrest last (by simp)
  · intro h
    rcases h with harmed | ⟨⟨front, rest, heq, hrest⟩, he⟩
    · cases e with
      | armed name' =>
        cases harmed
        exact ⟨deeds, [], rfl, fun x hx => nomatch hx⟩
      | _ => cases harmed
    · refine ⟨front, rest ++ [e], by simp [heq], fun x hx => ?_⟩
      rcases List.mem_append.mp hx with hx | hx
      · exact hrest x hx
      · exact List.mem_singleton.mp hx ▸ he

section Sessions

variable {listed : List String} {deeds : List Deed}

theorem calls_of_session (h : Session listed deeds s) :
    s.calls.toList = deeds.filterMap Deed.recorded? := by
  refine Path.recorded (P := fun deeds s => s.calls.toList = deeds.filterMap Deed.recorded?) h
    rfl ?_
  intro past e u t _ he ih
  rw [(booked_of_does he).calls, ih, List.filterMap_append]
  cases hrecorded : e.recorded? <;> simp [hrecorded]

theorem armed_of_session (h : Session listed deeds s) (name : String) :
    name ∈ s.armed ↔ Pending name deeds := by
  refine Path.recorded (P := fun deeds s => name ∈ s.armed ↔ Pending name deeds) h ?_ ?_
  · exact ⟨nofun, fun h => absurd h (not_pending_nil name)⟩
  · intro past e u t _ he ih
    rw [(booked_of_does he).armed, pending_concat, ih]

/-- The handler that was registered last, if that was one. -/
def lastRegistered (deeds : List Deed) : Option LogHandler :=
  (deeds.filterMap Deed.registered?).getLast?.join

theorem handler_of_session (h : Session listed deeds s) : s.handler = lastRegistered deeds := by
  refine Path.recorded (P := fun deeds s => s.handler = lastRegistered deeds) h rfl ?_
  intro past e u t _ he ih
  rw [(booked_of_does he).handler, lastRegistered, List.filterMap_append]
  cases hregistered : e.registered? with
  | none => simp [hregistered, ih, lastRegistered]
  | some handler => simp [hregistered]

/-- Failures come when they were asked for, and are told and recorded as they come. -/
structure Injecting (deeds : List Deed) (s : State) : Prop where
  /-- A call is rejected exactly when its name was armed since its last call. -/
  rejected : ∀ r a t name, Does (.served r a) s t → r.attempted? = some name →
    (r.failure? a = some (rejection name) ↔ Pending name deeds)
  calls : s.calls.toList = deeds.filterMap Deed.recorded?
  count : ∀ name, s.count name = deeds.countP fun e => e.recorded? = some name
  /-- A rejection is told once, to the handler that was registered last, and nothing else is. -/
  told : ∀ e t, Does e s t → t.journal.toList = s.journal.toList ++ e.entries (lastRegistered deeds)
  /-- The registration of a handler goes through whatever is pending, and leaves it pending. -/
  registers : ∀ handler, ∃ t, Does (.served (.registerLog handler) ()) s t ∧
    t.handler = handler ∧ ∀ name, name ∈ t.armed ↔ Pending name deeds

theorem session_injects (h : Session listed deeds s) : Injecting deeds s where
  rejected r a t name he hname := by
    have hrejected := (booked_of_does he).rejected name
    have hattempted : (Deed.served r a).attempted? = some name := hname
    rw [rejected?_of_attempted? hname, hattempted, armed_of_session h] at hrejected
    simpa using hrejected
  calls := calls_of_session h
  count name := by
    rw [State.count, ← Array.count_toList, calls_of_session h, List.count_filterMap]
    exact List.countP_congr fun e _ => by simp
  told e t he := by
    rw [(booked_of_does he).journal, handler_of_session h]
  registers handler := by
    have he : Does (.served (.registerLog handler) ()) s (perform (.registerLog handler) s).2 := rfl
    refine ⟨_, he, rfl, fun name => ?_⟩
    exact armed_of_session h name

end Sessions

/-- A name is armed twice, one that no request has is armed, and so is that of registrations.  The
call of an opened device fails before its argument is looked at, and again because of it. -/
def sabotage : List Deed :=
  [.armed "register_log_handler", .armed "no_such_call", .armed "open", .armed "open",
    .served (.registerLog (some .capture)) (),
    .served (.openDevice "other")
      (.error (.failed "open" "open rejected by device") : Except Error DeviceHandle),
    .served (.openDevice "other")
      (.error (.failed "open" "no device matches other") : Except Error DeviceHandle),
    .served (.openDevice "sim") (.ok ⟨0⟩ : Except Error DeviceHandle),
    .armed "set_antenna",
    .served (.channel ⟨0⟩ ⟨.rx, 0⟩ (.setAntenna 9))
      (.error (.failed "set_antenna" "set_antenna rejected by device") : Except Error Unit),
    .served (.channel ⟨0⟩ ⟨.rx, 0⟩ (.setAntenna 9))
      (.error (.failed "set_antenna" "no antenna 9") : Except Error Unit),
    .served (.registerLog none) (),
    .armed "recv_stream"]

theorem sabotage_injects :
    ∃ s, Session ["sim"] sabotage s ∧ s.count "open" = 3 ∧ s.count "set_antenna" = 2 ∧
      s.count "register_log_handler" = 2 ∧ Pending "recv_stream" sabotage ∧
      ¬ Pending "open" sabotage ∧
      s.journal = #[.captured 0 .error "open rejected by device",
        .captured 0 .error "set_antenna rejected by device"] := by
  have hpath : Session ["sim"] sabotage _ :=
    .cons rfl <| .cons rfl <| .cons rfl <| .cons rfl <| .cons rfl <| .cons rfl <| .cons rfl <|
      .cons rfl <| .cons rfl <| .cons rfl <| .cons rfl <| .cons rfl <| .cons rfl <| .nil _
  have hinjects := session_injects hpath
  refine ⟨_, hpath, hinjects.count _, hinjects.count _, hinjects.count _, ?_, ?_, rfl⟩
  · exact (hinjects.rejected (.recvStream ⟨7⟩ (.zeros .f32 4) none .zero)
      ⟨.error (rejection "recv_stream"), _, _⟩ _ "recv_stream" rfl rfl).mp rfl
  · intro hpending
    have hfailed := (hinjects.rejected (.openDevice "sim")
      (.ok ⟨1⟩ : Except Error DeviceHandle) _ "open" rfl rfl).mpr hpending
    cases hfailed

end Simulator
end RadioBench
