import MqmGateway.MqttClient.Machine

/-!
# Changes of objects that are not retained

An object that is not retained publishes its state when the payload differs
from the one it remembers.  It remembers a payload when it becomes available
for the first time, but not when it becomes available again: a value that
changed meanwhile looks like a change later on.
-/

namespace MqmGateway

namespace MqttObject

/-- The remembered payload is that of the current values. -/
def Remembers (object : MqttObject) : Prop :=
  object.isAvailable = .available →
    MqttPayload.generate object = .ok object.lastPublishedPayload

/-- A payload on the state topic that is not to be retained, as opposed to the
deletion of an old retained message. -/
def IsLive (object : MqttObject) (publication : Publication) : Prop :=
  publication.topic = object.stateTopic ∧ publication.retain = false

instance (object : MqttObject) (publication : Publication) :
    Decidable (object.IsLive publication) :=
  inferInstanceAs (Decidable (_ ∧ _))

/-- The object was available, is available and has another payload. -/
def ChangesLive (object next : MqttObject) : Prop :=
  object.isAvailable = .available ∧ next.isAvailable = .available ∧
    MqttPayload.generate next ≠ MqttPayload.generate object

instance (object next : MqttObject) : Decidable (object.ChangesLive next) :=
  inferInstanceAs (Decidable (_ ∧ _ ∧ _ ≠ _))

end MqttObject

namespace Round

open MqttObject

variable {object next : MqttObject} {publications : List Publication}

theorem publishState_remembers {time : Int} {force : Bool}
    (repeats : object.publishMode ≠ .once)
    (done : publishState time force object = some (next, publications)) :
    next.Remembers := by
  cases publishState_published done with
  | withheld withheld =>
    intro available
    rcases withheld with absent | ⟨once, _⟩
    · exact absurd available absent
    · exact absurd once repeats
  | unchanged _ same _ => exact fun _ => same
  | published _ generated _ => exact fun _ => generated

theorem publishState_live {time : Int} (volatile : object.retain = false)
    (repeats : object.publishMode ≠ .once)
    (done : publishState time false object = some (next, publications)) :
    (∃ publication ∈ publications, object.IsLive publication) ↔
      object.isAvailable = .available ∧
        MqttPayload.generate object ≠ .ok object.lastPublishedPayload := by
  cases publishState_published done with
  | withheld withheld =>
    have absent : object.isAvailable ≠ .available :=
      withheld.resolve_right fun once => repeats once.1
    simp [absent]
  | unchanged _ same _ => simp [same]
  | published available generated needed =>
    have other := needed.resolve_right Bool.false_ne_true
    simp [IsLive, statePublication, volatile, available, generated, other]

/-- When the availability changes, nothing live is published; the payload is
remembered if it is the first time or was remembered before. -/
theorem publishUpdate_changed {clock : RoundClock} {oldAvail : AvailableFlag}
    (volatile : object.retain = false)
    (onChange : object.publishMode = .onChange)
    (changed : oldAvail ≠ object.isAvailable)
    (done : publishUpdate clock oldAvail object = some (next, publications)) :
    (∀ publication ∈ publications, publication.retain = true) ∧
      ((oldAvail ≠ .notSet → object.Remembers) → next.Remembers) := by
  rw [publishUpdate, if_pos changed] at done
  obtain ⟨middle, front, back, began, ended, rfl⟩ :=
    Logged.andThen_eq_some done
  cases ended
  have told : ∀ publication ∈
      (if next.isAvailable = .notSet then []
      else [next.availabilityPublication]), publication.retain = true := by
    intro publication listed
    split at listed
    · cases listed
    · cases List.mem_singleton.mp listed
      rfl
  rw [publishChange] at began
  split at began
  · have other : object.publishMode ≠ .everyPoll := by
      rw [onChange]
      decide
    rw [if_neg (Bool.eq_false_iff.mp volatile)] at began
    obtain ⟨first, deletion, rest, deleted, skipped, rfl⟩ :=
      Logged.andThen_eq_some began
    rw [if_neg other] at skipped
    cases skipped
    split at deleted
    · rename_i unset
      rw [deleteRetained] at deleted
      split at deleted
      · cases deleted
      · rename_i payload generated
        cases deleted
        refine ⟨?_, fun _ _ => generated⟩
        simpa [deletionPublication] using told
    · rename_i set
      cases deleted
      exact ⟨by simpa using told, fun remembered => remembered set⟩
  · rename_i absent
    cases began
    exact ⟨by simpa using told, fun _ available => absurd available absent⟩

/-- A round of values publishes something live if and only if it changes the
payload of an object that stays available. -/
theorem values_live {networkName : String}
    {slaveData : MsgRegisterValues} {clock : RoundClock}
    (volatile : object.retain = false)
    (onChange : object.publishMode = .onChange)
    (remembers : object.Remembers)
    (stepped : step object (.values networkName slaveData, clock) =
      some (next, publications)) :
    (∃ publication ∈ publications, object.IsLive publication) ↔
      object.ChangesLive next := by
  obtain ⟨updated, updating, done⟩ := step_eq_some stepped
  have settings := (Round.values networkName slaveData).update_settings object
  have payload := ((Round.values networkName slaveData).update_payload
    object).1
  rw [updating] at settings payload
  obtain ⟨⟨_, _, fields⟩, _⟩ := publish_publishes _ _ _ _ _ _ done
  have flag : next.isAvailable = updated.isAvailable := by rw [fields]
  have generated : MqttPayload.generate next =
      MqttPayload.generate updated := by
    rw [fields]
    rfl
  have topic : updated.stateTopic = object.stateTopic := by
    rw [stateTopic, stateTopic, settings.topic]
  have updatedVolatile := settings.retain.trans volatile
  have updatedOnChange := settings.publishMode.trans onChange
  rw [ChangesLive, flag, generated]
  by_cases changed : object.isAvailable ≠ updated.isAvailable
  · obtain ⟨retained, _⟩ := publishUpdate_changed updatedVolatile
      updatedOnChange changed done
    constructor
    · rintro ⟨publication, listed, live⟩
      exact absurd ((retained publication listed).symm.trans live.2)
        (by decide)
    · rintro ⟨before, after, _⟩
      exact absurd (before.trans after.symm) changed
  · have same := not_not.mp changed
    rw [publish, publishUpdate, if_neg changed] at done
    have unforced : updated.needStateRepublish clock.republishCheck =
        false := by
      rw [needStateRepublish, updatedOnChange]
    rw [unforced] at done
    have live := publishState_live updatedVolatile
      (by rw [updatedOnChange]; decide) done
    simp only [IsLive, topic] at live ⊢
    rw [live, payload, same]
    constructor
    · rintro ⟨available, other⟩
      exact ⟨available, available, by
        rw [remembers (same.trans available)]
        exact other⟩
    · rintro ⟨available, _, other⟩
      rw [remembers (same.trans available)] at other
      exact ⟨available, other⟩

/-- A round keeps the remembered payload in step with the values, if those
that make the object available again have it. -/
theorem step_remembers {round : Round × RoundClock}
    (volatile : object.retain = false)
    (onChange : object.publishMode = .onChange)
    (remembers : object.Remembers)
    (recovers : object.isAvailable = .unavailable →
      (round.1.update object).1.Remembers)
    (stepped : step object round = some (next, publications)) :
    next.Remembers := by
  obtain ⟨round, clock⟩ := round
  obtain ⟨updated, updating, done⟩ := step_eq_some stepped
  have settings := round.update_settings object
  rw [updating] at settings recovers
  have repeats : updated.publishMode ≠ .once := by
    rw [settings.publishMode, onChange]
    decide
  have kept (other : round.isValues = false) : updated.Remembers := by
    intro available
    have unchanged := update_eq_of_available other updating available
    rw [unchanged] at available ⊢
    exact remembers available
  cases round with
  | values networkName slaveData =>
    rw [publish] at done
    by_cases changed : object.isAvailable ≠ updated.isAvailable
    · refine (publishUpdate_changed (settings.retain.trans volatile)
        (settings.publishMode.trans onChange) changed done).2 fun set => ?_
      cases old : object.isAvailable with
      | notSet => exact absurd old set
      | unavailable => exact recovers old
      | available =>
        exact fun available => absurd (old.trans available.symm) changed
    · rw [publishUpdate, if_neg changed] at done
      exact publishState_remembers repeats done
  | failed networkName slaveData =>
    obtain ⟨middle, front, back, began, ended, rfl⟩ :=
      Logged.andThen_eq_some done
    have remembered := publishState_remembers repeats began
    split at ended
    · cases ended
      exact remembered
    · cases ended
      exact remembered
  | networkDown networkName =>
    rw [publish] at done
    dsimp only at done
    split at done
    · cases done
      exact kept rfl
    · cases done
      exact kept rfl
  | connected =>
    obtain ⟨middle, front, back, began, ended, rfl⟩ :=
      Logged.andThen_eq_some done
    cases ended
    split at began
    · exact publishState_remembers repeats began
    · cases began
      exact kept rfl

end Round

namespace MqttClient

/-- If the input makes an unavailable object available again, it does so with
the values whose payload the object remembers. -/
def Recovers (client : MqttClient) (id : ObjectId) (input : ClientInput) :
    Prop :=
  ∀ round ∈ client.roundOf id input,
    (client.store id).isAvailable = .unavailable →
    (round.1.update (client.store id)).1.Remembers

variable {libraries : RequestLibraries} {start client next : MqttClient}
  {history publications : List Publication}

/-- As long as an object that is not retained always becomes available again
with the payload it remembers, register values publish its state if and only
if they change the payload while it is available. -/
theorem live_iff_changed (initial : start.Initial) {id : ObjectId}
    (run : Runs (step libraries) (fun client _ input =>
      client.Smooth input ∧ client.Recovers id input) start client history)
    {networkName : String} {call : ProcessInput} {message : MsgRegisterValues}
    (smooth : client.Smooth
      (.process networkName call (.registerValues message)))
    (stepped : client.step libraries
      (.process networkName call (.registerValues message)) =
        some (next, publications))
    (listed : start.Listed id) (volatile : (start.store id).retain = false)
    (onChange : (start.store id).publishMode = .onChange) :
    (∃ publication ∈ publications, (client.store id).IsLive publication) ↔
      (client.store id).ChangesLive (next.store id) := by
  let holds (object : MqttObject) (_ : List Publication) : Prop :=
    (start.store id).SameSettings object ∧ object.Remembers
  have unset : holds (start.store id) [] := by
    refine ⟨.refl _, fun available => ?_⟩
    rw [(initial.fresh id listed).flag] at available
    cases available
  have before : holds (client.store id) _ :=
    run_object initial (fun _ _ _ permitted => permitted.1) listed unset
      (fun permitted meant performed reached =>
        ⟨reached.1.trans (Round.step_owned performed).1,
          Round.step_remembers (reached.1.retain.trans volatile)
            (reached.1.publishMode.trans onChange) reached.2
            (permitted.2 _ meant) performed⟩) run
  obtain ⟨settings, remembers⟩ := before
  have own : (∃ publication ∈ publications,
      (client.store id).IsLive publication) ↔
      ∃ publication ∈ publicationsOf (start.store id) publications,
        (client.store id).IsLive publication := by
    rw [publicationsOf_of_settings settings]
    constructor
    · rintro ⟨publication, published, live⟩
      refine ⟨publication, List.mem_filter.mpr ⟨published, ?_⟩, live⟩
      simp [Publication.isOf, live.1, MqttObject.stateTopic]
    · rintro ⟨publication, published, live⟩
      exact ⟨publication, List.mem_of_mem_filter published, live⟩
  rw [own]
  rcases (run_continues initial (fun _ _ _ permitted => permitted.1)
      run).1.object smooth stepped listed with
    ⟨round, meant, performed⟩ | ⟨same, silent⟩
  · rw [roundOf] at meant
    split at meant
    · cases meant
      exact Round.values_live (settings.retain.trans volatile)
        (settings.publishMode.trans onChange) remembers performed
    · cases meant
  · rw [same, silent]
    simp [MqttObject.ChangesLive]

def volatileObject : MqttObject :=
  { registerObject "first" none 0 with retain := false }

theorem volatileObject_initial : (soleClient volatileObject).Initial :=
  soleClient_initial ⟨rfl, by decide, rfl, rfl⟩

def registerFailed : QueueItem :=
  .registerReadFailed (registerRead 0).toModbusMessageBase

theorem live_iff_changed_second :
    ∃ (client next : MqttClient) (publications : List Publication),
      (client.store 0).ChangesLive (next.store 0) ∧
      ((∃ publication ∈ publications, (client.store 0).IsLive publication) ↔
        (client.store 0).ChangesLive (next.store 0)) := by
  let start := soleClient volatileObject
  let client := start.processed (.registerValues (registerRead 5))
  have first : start.Smooth
      (.process "net" (refusing none) (.registerValues (registerRead 5))) :=
    ⟨refusing_none_accepts, by decide +kernel⟩
  have begun : (processModbusMessage (refusing none) "net"
      (.registerValues (registerRead 5)) start).2 = none := by
    decide +kernel
  have unset : start.Recovers 0
      (.process "net" (refusing none) (.registerValues (registerRead 5))) :=
    fun _ _ unavailable => by cases unavailable
  have second : client.Smooth
      (.process "net" (refusing none) (.registerValues (registerRead 7))) :=
    ⟨refusing_none_accepts, by decide +kernel⟩
  have quiet : (processModbusMessage (refusing none) "net"
      (.registerValues (registerRead 7)) client).2 = none := by
    decide +kernel
  have changed := @live_iff_changed noLibraries _ _ _ _ _
    volatileObject_initial 0
    (.step .start ⟨first, unset⟩ (step_of_quiet begun)) _ _ _ second
    (step_of_quiet quiet) (soleClient_listed _) rfl rfl
  refine ⟨_, _, _, ?_, changed⟩
  decide +kernel

/-- A value read after a failure is remembered too late: it is published when
it is read again, and the change back to the old value is not published. -/
theorem recovered_value_missed : ∃ (client same other : MqttClient)
      (history late missed : List Publication),
      Runs (step noLibraries) (fun client _ input => client.Smooth input)
        (soleClient volatileObject) client history ∧
      (soleClient volatileObject).Initial ∧
      client.Smooth (.process "net" (refusing none)
        (.registerValues (registerRead 7))) ∧
      client.step noLibraries (.process "net" (refusing none)
        (.registerValues (registerRead 7))) = some (same, late) ∧
      (¬ (client.store 0).ChangesLive (same.store 0) ∧
        ∃ publication ∈ late, (client.store 0).IsLive publication) ∧
      client.Smooth (.process "net" (refusing none)
        (.registerValues (registerRead 5))) ∧
      client.step noLibraries (.process "net" (refusing none)
        (.registerValues (registerRead 5))) = some (other, missed) ∧
      (client.store 0).ChangesLive (other.store 0) ∧
        ¬ ∃ publication ∈ missed, (client.store 0).IsLive publication := by
  obtain ⟨history, run⟩ := @run_of_plays noLibraries
    (soleClient volatileObject) _ _ .start
    [.registerValues (registerRead 5), registerFailed,
      .registerValues (registerRead 7)] (by decide +kernel)
  refine ⟨_, _, _, history, _, _, run, volatileObject_initial,
    ⟨refusing_none_accepts, ?_⟩, step_of_quiet ?_, ?_,
    ⟨refusing_none_accepts, ?_⟩, step_of_quiet ?_, ?_⟩
  all_goals decide +kernel

end MqttClient

end MqmGateway
