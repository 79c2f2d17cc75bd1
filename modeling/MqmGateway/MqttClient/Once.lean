import MqmGateway.MqttClient.Machine

/-!
# Objects published once

A retained object with publish mode `once` publishes its state in the round in
which it becomes available for the first time: the round forces it, and the
time of the publication withholds all later ones.
-/

namespace MqmGateway

namespace MqttObject

/-- A payload on the state topic that does not delete a retained one. -/
def IsState (object : MqttObject) (publication : Publication) : Prop :=
  publication.topic = object.stateTopic ∧ publication.payload ≠ []

instance (object : MqttObject) (publication : Publication) :
    Decidable (object.IsState publication) :=
  inferInstanceAs (Decidable (_ ∧ _ ≠ _))

def states (object : MqttObject) (publications : List Publication) :
    List Publication :=
  publications.filter fun publication => object.IsState publication

/-- There is one state payload if the object was available once, and it was
published when the object first became available. -/
def PublishedOnce (object : MqttObject) (first : Option (List Publication))
    (history : List Publication) : Prop :=
  match first with
  | none => object.states history = []
  | some publications => ∃ publication,
      object.states history = [publication] ∧
        object.states publications = [publication]

theorem states_append (object : MqttObject) (first second : List Publication) :
    object.states (first ++ second) =
      object.states first ++ object.states second :=
  List.filter_append ..

theorem states_of_none {object : MqttObject} {publications : List Publication}
    (silent : ∀ publication ∈ publications, ¬ object.IsState publication) :
    object.states publications = [] := by
  apply List.filter_eq_nil_iff.mpr
  simpa using silent

theorem availability_not_state (object : MqttObject) :
    ¬ object.IsState object.availabilityPublication :=
  fun state => object.stateTopic_ne_availabilityTopic state.1.symm

theorem SameSettings.states {before after : MqttObject}
    (settings : before.SameSettings after) (publications : List Publication) :
    after.states publications = before.states publications := by
  apply List.filter_congr
  intro publication _
  apply decide_eq_decide.mpr
  rw [IsState, IsState, stateTopic, stateTopic, settings.topic]

theorem SameSettings.publishedOnce {before after : MqttObject}
    (settings : before.SameSettings after) {first : Option (List Publication)}
    {history : List Publication} :
    after.PublishedOnce first history ↔ before.PublishedOnce first history := by
  cases first <;> simp only [PublishedOnce, settings.states]

theorem states_publicationsOf (object : MqttObject)
    (publications : List Publication) :
    object.states (MqttClient.publicationsOf object publications) =
      object.states publications := by
  rw [states, MqttClient.publicationsOf, List.filter_filter]
  apply List.filter_congr
  intro publication _
  by_cases state : object.IsState publication
  · simp [state, Publication.isOf, state.1, stateTopic]
  · simp [state]

end MqttObject

namespace Round

open MqttObject

/-- A withheld object publishes no state and does not take the time. -/
def Silent (object : MqttObject) (publications : List Publication)
    (next : MqttObject) : Prop :=
  object.Withheld →
    (∃ payload, next = { object with lastPublishedPayload := payload }) ∧
      ∀ publication ∈ publications, ¬ object.IsState publication

theorem Silent.refl (object : MqttObject) : Silent object [] object :=
  fun _ => ⟨⟨object.lastPublishedPayload, rfl⟩, by simp⟩

theorem Silent.trans (object : MqttObject) (front : List Publication)
    (middle : MqttObject) (back : List Publication) (next : MqttObject)
    (left : Silent object front middle) (right : Silent middle back next) :
    Silent object (front ++ back) next := by
  intro withheld
  obtain ⟨⟨_, rfl⟩, first⟩ := left withheld
  obtain ⟨⟨payload, rfl⟩, second⟩ := right withheld
  exact ⟨⟨payload, rfl⟩, List.forall_mem_append.mpr ⟨first, second⟩⟩

theorem publishState_silent (time : Int) (force : Bool) :
    Logged.Within Silent (publishState time force) := by
  intro object publications next done withheld
  rw [publishState, if_pos withheld] at done
  cases done
  exact Silent.refl object withheld

variable {object next : MqttObject} {publications : List Publication}

theorem publishAvailabilityChange_eq_some
    (done : publishAvailabilityChange object = some (next, publications)) :
    next = object ∧
      ∀ publication ∈ publications, ¬ object.IsState publication := by
  cases done
  refine ⟨rfl, ?_⟩
  split
  · simp
  · simpa using object.availability_not_state

theorem publishAvailabilityChange_silent :
    Logged.Within Silent publishAvailabilityChange := by
  intro object publications next done _
  obtain ⟨rfl, silent⟩ := publishAvailabilityChange_eq_some done
  exact ⟨⟨_, rfl⟩, silent⟩

theorem deleteRetained_silent : Logged.Within Silent deleteRetained := by
  intro object publications next done _
  rw [deleteRetained] at done
  split at done
  · cases done
  · cases done
    refine ⟨⟨_, rfl⟩, ?_⟩
    simp [deletionPublication, IsState]

theorem publish_silent (clock : RoundClock) (oldAvail : AvailableFlag)
    (round : Round) : Logged.Within Silent (round.publish clock oldAvail) :=
  publish_within .refl .trans publishState_silent
    publishAvailabilityChange_silent deleteRetained_silent clock oldAvail round

theorem step_silent {round : Round} {clock : RoundClock}
    (withheld : (round.update object).1.Withheld)
    (stepped : step object (round, clock) = some (next, publications)) :
    next.lastPublishTime = object.lastPublishTime ∧
      next.isAvailable = (round.update object).1.isAvailable ∧
      object.states publications = [] := by
  obtain ⟨updated, updating, done⟩ := step_eq_some stepped
  have settings := round.update_settings object
  have time := (round.update_payload object).2
  rw [updating] at settings time withheld ⊢
  obtain ⟨⟨_, rfl⟩, silent⟩ := publish_silent _ _ _ _ _ _ done withheld
  exact ⟨time, rfl, by rw [← settings.states]; exact states_of_none silent⟩

/-- A retained object that becomes available publishes its state. -/
theorem step_first {round : Round} {clock : RoundClock}
    (retained : object.retain = true)
    (absent : object.isAvailable ≠ .available)
    (present : (round.update object).1.isAvailable = .available)
    (admitted : ¬ (round.update object).1.Withheld)
    (stepped : step object (round, clock) = some (next, publications)) :
    next.lastPublishTime ≠ none ∧ next.isAvailable = .available ∧
      (MqttPayload.generate (round.update object).1 ≠ .ok [] →
        ∃ publication, object.states publications = [publication]) := by
  obtain ⟨updated, updating, done⟩ := step_eq_some stepped
  have settings := round.update_settings object
  rw [updating] at settings present admitted ⊢
  have reported : round.isValues = true := by
    by_contra other
    have same := update_eq_of_available (Bool.eq_false_iff.mpr other) updating
      present
    exact absent (same ▸ present)
  have changed : object.isAvailable ≠ updated.isAvailable := by
    intro same
    exact absent (same.trans present)
  cases round with
  | failed => cases reported
  | networkDown => cases reported
  | connected => cases reported
  | values networkName slaveData =>
    rw [publish, publishUpdate, if_pos changed] at done
    obtain ⟨middle, front, back, began, ended, rfl⟩ :=
      Logged.andThen_eq_some done
    rw [publishChange, if_pos present,
      if_pos (settings.retain.trans retained), publishState,
      if_neg admitted] at began
    split at began
    · cases began
    · rename_i payload generated
      rw [if_pos (.inr rfl)] at began
      cases began
      obtain ⟨rfl, others⟩ := publishAvailabilityChange_eq_some ended
      refine ⟨by simp, present, fun spoken =>
        ⟨updated.statePublication payload, ?_⟩⟩
      have state : updated.IsState (updated.statePublication payload) := by
        refine ⟨rfl, fun empty => spoken ?_⟩
        rw [← show payload = [] from empty]
        exact generated
      have silent : updated.states back = [] := states_of_none others
      rw [← settings.states, states_append]
      dsimp only
      rw [silent]
      simp [states, state]

end Round

namespace MqttClient

/-- An observer that keeps the publications of the step in which an object
became available for the first time. -/
def firstAvailable (id : ObjectId)
    (watched : MqttClient × Option (List Publication)) (_ : ClientInput)
    (result : MqttClient × List Publication) :
    Option (List Publication) × List Publication :=
  (watched.2.or
    (if (result.1.store id).isAvailable = .available then some result.2
    else none), result.2)

/-- If the input makes the object available for the first time, it does so
with values whose payload is not empty. -/
def Speaks (id : ObjectId) (watched : MqttClient × Option (List Publication))
    (input : ClientInput) : Prop :=
  ∀ round ∈ watched.1.roundOf id input, watched.2 = none →
    (round.1.update (watched.1.store id)).1.isAvailable = .available →
    MqttPayload.generate (round.1.update (watched.1.store id)).1 ≠ .ok []

/-- An object published once is not available yet and has published nothing,
or its one publication withholds all others. -/
def Once (object : MqttObject) (first : Option (List Publication))
    (history : List Publication) : Prop :=
  (match first with
  | none => object.isAvailable ≠ .available ∧ object.lastPublishTime = none
  | some _ => object.lastPublishTime ≠ none) ∧
    object.PublishedOnce first history

variable {object next : MqttObject} {publications : List Publication}

theorem Once.round {round : Round × RoundClock} {own history : List Publication}
    {first : Option (List Publication)} (retained : object.retain = true)
    (once : object.publishMode = .once) (kept : Once object first history)
    (stepped : Round.step object round = some (next, own))
    (same : object.states own = object.states publications)
    (speaks : first = none →
      (round.1.update object).1.isAvailable = .available →
      MqttPayload.generate (round.1.update object).1 ≠ .ok []) :
    Once next (first.or (if next.isAvailable = .available then
      some publications else none)) (history ++ publications) := by
  obtain ⟨round, clock⟩ := round
  have settings := (Round.step_owned stepped).1
  have mode := (round.update_settings object).publishMode.trans once
  have time := (round.update_payload object).2
  have history_states : next.states (history ++ publications) =
      object.states history ++ object.states own := by
    rw [settings.states, MqttObject.states_append, same]
  cases first with
  | some event =>
    obtain ⟨published, publication, only, here⟩ := kept
    have withheld : (round.update object).1.Withheld :=
      .inr ⟨mode, time ▸ published⟩
    obtain ⟨unchanged, _, silent⟩ := Round.step_silent withheld stepped
    refine ⟨unchanged ▸ published, publication, ?_, ?_⟩
    · rw [history_states, silent, only]
      rfl
    · rw [settings.states, here]
  | none =>
    obtain ⟨⟨absent, unpublished⟩, nothing⟩ := kept
    have nothing : object.states history = [] := nothing
    rw [Option.none_or]
    by_cases present : (round.update object).1.isAvailable = .available
    · have admitted : ¬ (round.update object).1.Withheld := by
        rintro (unavailable | ⟨_, published⟩)
        · exact unavailable present
        · exact published (time.trans unpublished)
      obtain ⟨published, available, spoken⟩ :=
        Round.step_first retained absent present admitted stepped
      obtain ⟨publication, only⟩ := spoken (speaks rfl present)
      rw [if_pos available]
      refine ⟨published, publication, ?_, ?_⟩
      · rw [history_states, nothing, only]
        rfl
      · rw [settings.states, ← same, only]
    · obtain ⟨unchanged, flag, silent⟩ :=
        Round.step_silent (.inl present) stepped
      have unavailable : next.isAvailable ≠ .available := flag ▸ present
      rw [if_neg unavailable]
      refine ⟨⟨unavailable, unchanged.trans unpublished⟩, ?_⟩
      show next.states (history ++ publications) = []
      rw [history_states, nothing, silent]
      rfl

theorem Once.unchanged {history : List Publication}
    {first : Option (List Publication)} (kept : Once object first history)
    (same : next = object)
    (silent : publicationsOf object publications = []) :
    Once next (first.or (if next.isAvailable = .available then
      some publications else none)) (history ++ publications) := by
  have nothing : object.states (history ++ publications) =
      object.states history := by
    rw [MqttObject.states_append, ← object.states_publicationsOf publications,
      silent]
    exact List.append_nil _
  cases same
  cases first with
  | some event =>
    obtain ⟨published, publication, only, here⟩ := kept
    exact ⟨published, publication, nothing.trans only, here⟩
  | none =>
    rw [Option.none_or, if_neg kept.1.1]
    exact ⟨kept.1, nothing.trans kept.2⟩

variable {libraries : RequestLibraries} {start client : MqttClient}
  {history : List Publication} {first : Option (List Publication)}

/-- A retained object with publish mode `once` publishes one state payload if
it is ever available, in the step in which it first is. -/
theorem published_once (initial : start.Initial) {id : ObjectId}
    (listed : start.Listed id) (retained : (start.store id).retain = true)
    (once : (start.store id).publishMode = .once)
    (run : Runs (Runs.observe (step libraries) (firstAvailable id))
      (fun watched _ input =>
        watched.1.Smooth input ∧ Speaks id watched input)
      (start, none) (client, first) history) :
    (start.store id).PublishedOnce first history := by
  have invariant {watched : MqttClient × Option (List Publication)}
      {history : List Publication}
      (run : Runs (Runs.observe (step libraries) (firstAvailable id))
        (fun watched _ input =>
          watched.1.Smooth input ∧ Speaks id watched input)
        (start, none) watched history) :
      Continues start watched.1 ∧
        Once (watched.1.store id) watched.2 history := by
    induction run with
    | start =>
      have fresh := initial.fresh id listed
      refine ⟨.refl initial.toSeparate, ⟨?_, fresh.publishTime⟩, rfl⟩
      rw [fresh.flag]
      decide
    | @step watched next history seen input _ permitted observed induction =>
      obtain ⟨publications, stepped, watching⟩ :=
        Runs.observe_eq_some observed
      obtain ⟨continues, kept⟩ := induction
      rw [firstAvailable, Prod.mk.injEq] at watching
      obtain ⟨became, rfl⟩ := watching
      have settings := continues.settings id listed
      refine ⟨continues.step permitted.1 stepped, ?_⟩
      rw [← became]
      rcases continues.object permitted.1 stepped listed with
        ⟨round, meant, performed⟩ | ⟨same, silent⟩
      · refine kept.round (settings.retain.trans retained)
          (settings.publishMode.trans once) performed ?_
          (permitted.2 _ meant)
        rw [publicationsOf_of_settings settings,
          MqttObject.states_publicationsOf]
      · rw [publicationsOf_of_settings settings] at silent
        exact kept.unchanged same silent
  obtain ⟨continues, _, published⟩ := invariant run
  exact (continues.settings id listed).publishedOnce.mp published

def onceObject (retain : Bool) : MqttObject :=
  { registerObject "first" none 0 with
    publishMode := .once
    retain }

theorem onceObject_initial (retain : Bool) :
    (soleClient (onceObject retain)).Initial :=
  soleClient_initial ⟨rfl, by revert retain; decide, rfl, rfl⟩

theorem speaks_of_round {round : Round × RoundClock} {input : ClientInput}
    {id : ObjectId}
    (meant : client.roundOf id input = some round)
    (spoken : MqttPayload.generate (round.1.update (client.store id)).1 ≠
      .ok []) : Speaks id (client, first) input := by
  intro other listed _ _
  cases meant.symm.trans listed
  exact spoken

theorem published_once_second :
    ∃ (client : MqttClient) (first : Option (List Publication))
      (history : List Publication),
      (first ≠ none ∧ MqttPayload.generate (client.store 0) = .ok ['7']) ∧
      (onceObject true).PublishedOnce first history := by
  let start := soleClient (onceObject true)
  let client := start.processed (.registerValues (registerRead 5))
  have begun : (processModbusMessage (refusing none) "net"
      (.registerValues (registerRead 5)) start).2 = none := by
    decide +kernel
  have smooth : start.Smooth
      (.process "net" (refusing none) (.registerValues (registerRead 5))) :=
    ⟨refusing_none_accepts, by decide +kernel⟩
  have ended : (processModbusMessage (refusing none) "net"
      (.registerValues (registerRead 7)) client).2 = none := by
    decide +kernel
  have smoothLater : client.Smooth
      (.process "net" (refusing none) (.registerValues (registerRead 7))) :=
    ⟨refusing_none_accepts, by decide +kernel⟩
  have once := @published_once noLibraries start _ _ _
    (onceObject_initial true) 0 (soleClient_listed _) rfl rfl
    (.step
      (.step .start ⟨smooth, speaks_of_round rfl (by decide +kernel)⟩
        (Runs.observe_of_some (step_of_quiet begun)))
      ⟨smoothLater, speaks_of_round rfl (by decide +kernel)⟩
      (Runs.observe_of_some (step_of_quiet ended)))
  refine ⟨client.processed (.registerValues (registerRead 7)), _, _, ?_, once⟩
  decide +kernel

/-- Without retain, becoming available publishes no state. -/
theorem volatile_once_unpublished :
    ∃ (client : MqttClient) (first : Option (List Publication))
      (history : List Publication),
      Runs (Runs.observe (step noLibraries) (firstAvailable 0))
        (fun watched _ input =>
          watched.1.Smooth input ∧ Speaks 0 watched input)
        (soleClient (onceObject false), none) (client, first) history ∧
      (soleClient (onceObject false)).Initial ∧
      (soleClient (onceObject false)).Listed 0 ∧
      (first ≠ none ∧ (onceObject false).states history = []) ∧
      ¬ (onceObject false).PublishedOnce first history := by
  let start := soleClient (onceObject false)
  have begun : (processModbusMessage (refusing none) "net"
      (.registerValues (registerRead 5)) start).2 = none := by
    decide +kernel
  have smooth : start.Smooth
      (.process "net" (refusing none) (.registerValues (registerRead 5))) :=
    ⟨refusing_none_accepts, by decide +kernel⟩
  have silent : ∀ first : Option (List Publication), ∀ history,
      (first ≠ none ∧ (onceObject false).states history = []) →
      ¬ (onceObject false).PublishedOnce first history := by
    rintro (_ | event) history ⟨became, nothing⟩ published
    · exact became rfl
    · obtain ⟨publication, only, _⟩ := published
      rw [nothing] at only
      cases only
  refine ⟨_, _, _,
    .step .start ⟨smooth, speaks_of_round rfl (by decide +kernel)⟩
      (Runs.observe_of_some (step_of_quiet begun)),
    onceObject_initial false, soleClient_listed _, ?_, silent _ _ ?_⟩
  all_goals decide +kernel

end MqttClient

end MqmGateway
