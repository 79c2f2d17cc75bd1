import MqmGateway.MqttClient.Machine

/-!
# Retained states are current

While a retained object is available, the last payload on its state topic is
that of its current values, and it is told to be available only after such a
payload.  What decides is that every way back to being available publishes
the state whether it has changed or not.
-/

namespace MqmGateway

theorem eq_last_of_split {α : Type} {front before after : List α}
    {last item : α} (split : front ++ [last] = before ++ item :: after)
    (absent : item ∉ front) : before = front ∧ item = last := by
  rcases List.eq_nil_or_concat after with rfl | ⟨rest, final, rfl⟩
  · obtain ⟨same, ended⟩ := List.append_inj' split rfl
    exact ⟨same.symm, (List.cons.inj ended).1.symm⟩
  · rw [List.concat_eq_append, ← List.cons_append, ← List.append_assoc] at split
    obtain ⟨same, _⟩ := List.append_inj' split rfl
    exact absurd (by simp [same]) absent

namespace MqttObject

def lastState (object : MqttObject) (history : List Publication) :
    Option Payload :=
  ((history.filter fun publication =>
    publication.topic = object.stateTopic).getLast?).map Publication.payload

/-- The publication says that the object is available. -/
def IsOne (object : MqttObject) (publication : Publication) : Prop :=
  publication.topic = object.availabilityTopic ∧ publication.payload = ['1']

/-- The last payload on the state topic is that of the current values. -/
def Current (object : MqttObject) (history : List Publication) : Prop :=
  ∃ payload, MqttPayload.generate object = .ok payload ∧
    object.lastState history = some payload

/-- The object remembers what it has published, and that is current. -/
def Settled (object : MqttObject) (history : List Publication) : Prop :=
  object.isAvailable = .available →
    MqttPayload.generate object = .ok object.lastPublishedPayload ∧
      object.lastState history = some object.lastPublishedPayload

/-- Whenever the object is told to be available, the state is current. -/
def Announced (object : MqttObject) (history publications : List Publication) :
    Prop :=
  ∀ before publication after,
    publications = before ++ publication :: after →
    object.IsOne publication → object.Current (history ++ before)

theorem lastState_append_state (object : MqttObject)
    (history : List Publication) (payload : Payload) :
    object.lastState (history ++ [object.statePublication payload]) =
      some payload := by
  simp [lastState, statePublication]

variable {object : MqttObject} {history publications : List Publication}

theorem lastState_append_other (others : ∀ publication ∈ publications,
      publication.topic ≠ object.stateTopic) :
    object.lastState (history ++ publications) = object.lastState history := by
  have none : publications.filter (fun publication =>
      publication.topic = object.stateTopic) = [] := by
    apply List.filter_eq_nil_iff.mpr
    intro publication listed
    simpa using others publication listed
  rw [lastState, List.filter_append, none, List.append_nil]
  rfl

theorem lastState_publicationsOf (object : MqttObject)
    (history : List Publication) :
    object.lastState (MqttClient.publicationsOf object history) =
      object.lastState history := by
  rw [lastState, lastState, MqttClient.publicationsOf, List.filter_filter]
  congr 2
  apply List.filter_congr
  intro publication _
  by_cases here : publication.topic = object.topic ++ "/state" <;>
    simp [Publication.isOf, stateTopic, here]

theorem current_publicationsOf :
    object.Current (MqttClient.publicationsOf object history) ↔
      object.Current history := by
  rw [Current, Current, lastState_publicationsOf]

theorem announced_of_publicationsOf
    (announced : object.Announced (MqttClient.publicationsOf object history)
      (MqttClient.publicationsOf object publications)) :
    object.Announced history publications := by
  intro before publication after split one
  have own : publication.isOf object.topic = true := by
    simp [Publication.isOf, one.1, availabilityTopic]
  rw [← current_publicationsOf, MqttClient.publicationsOf_append]
  apply announced _ publication (MqttClient.publicationsOf object after) _ one
  rw [split, MqttClient.publicationsOf_append]
  exact congrArg _ (List.filter_cons_of_pos own)

theorem SameSettings.lastState {before after : MqttObject}
    (settings : before.SameSettings after) (history : List Publication) :
    after.lastState history = before.lastState history := by
  rw [MqttObject.lastState, MqttObject.lastState, stateTopic, stateTopic,
    settings.topic]

theorem SameSettings.isOne {before after : MqttObject}
    (settings : before.SameSettings after) {publication : Publication} :
    after.IsOne publication ↔ before.IsOne publication := by
  rw [IsOne, IsOne, availabilityTopic, availabilityTopic, settings.topic]

theorem Settled.current (settled : object.Settled history)
    (available : object.isAvailable = .available) : object.Current history :=
  ⟨_, settled available⟩

theorem announced_of_others
    (others : ∀ publication ∈ publications, ¬object.IsOne publication) :
    object.Announced history publications := by
  intro before publication after split one
  exact absurd one (others publication (by simp [split]))

end MqttObject

namespace Round

open MqttObject

variable {object next : MqttObject} {publications history : List Publication}

theorem publishState_settled {time : Int} {force : Bool}
    (done : publishState time force object = some (next, publications))
    (repeats : object.publishMode ≠ .once)
    (known : object.isAvailable = .available → force = true ∨
      object.lastState history = some object.lastPublishedPayload) :
    next.isAvailable = object.isAvailable ∧
      next.Settled (history ++ publications) ∧
      ∀ publication ∈ publications, publication.topic = object.stateTopic := by
  cases publishState_published done with
  | withheld withheld =>
    refine ⟨rfl, ?_, by simp⟩
    intro available
    rcases withheld with absent | ⟨once, _⟩
    · exact absurd available absent
    · exact absurd once repeats
  | unchanged available same unforced =>
    refine ⟨rfl, fun _ => ⟨same, ?_⟩, by simp⟩
    rw [List.append_nil]
    exact (known available).resolve_left unforced
  | published _ generated _ =>
    refine ⟨rfl, fun _ => ⟨generated, ?_⟩, by simp [statePublication]⟩
    exact lastState_append_state object history _

/-- Telling the availability of an object whose state is settled. -/
theorem publishAvailabilityChange_announced {front back : List Publication}
    (done : publishAvailabilityChange object = some (next, back))
    (states : ∀ publication ∈ front, publication.topic = object.stateTopic)
    (settled : object.Settled (history ++ front)) :
    next.Settled (history ++ (front ++ back)) ∧
      next.Announced history (front ++ back) := by
  cases done
  have others : ∀ publication ∈
      (if object.isAvailable = .notSet then []
      else [object.availabilityPublication]),
      publication.topic ≠ object.stateTopic := by
    intro publication listed
    split at listed
    · cases listed
    · cases List.mem_singleton.mp listed
      exact object.stateTopic_ne_availabilityTopic.symm
  refine ⟨?_, ?_⟩
  · intro available
    rw [← List.append_assoc, lastState_append_other others]
    exact settled available
  · intro before publication after split one
    have absent : publication ∉ front := by
      intro listed
      exact object.stateTopic_ne_availabilityTopic
        ((states publication listed).symm.trans one.1)
    by_cases unset : object.isAvailable = .notSet
    · rw [if_pos unset, List.append_nil] at split
      exact absurd (by simp [split]) absent
    · rw [if_neg unset] at split
      obtain ⟨rfl, rfl⟩ := eq_last_of_split split absent
      refine settled.current ?_
      by_contra gone
      have zero := one.2
      simp [availabilityPublication, gone] at zero

theorem settled_of_publishes {first : Logged MqttObject Publication}
    (began : ∀ middle front, first object = some (middle, front) →
      object.SameSettings middle ∧ middle.Settled (history ++ front) ∧
        ∀ publication ∈ front, publication.topic = object.stateTopic)
    (done : first.andThen publishAvailabilityChange object =
      some (next, publications)) :
    next.Settled (history ++ publications) ∧
      next.Announced history publications := by
  obtain ⟨middle, front, back, begun, ended, rfl⟩ :=
    Logged.andThen_eq_some done
  obtain ⟨settings, settled, states⟩ := began middle front begun
  apply publishAvailabilityChange_announced ended _ settled
  intro publication listed
  rw [states publication listed, stateTopic, stateTopic, settings.topic]

theorem publishState_first {time : Int} {force : Bool} {object : MqttObject}
    (repeats : object.publishMode ≠ .once) {history : List Publication}
    (known : object.isAvailable = .available → force = true ∨
      object.lastState history = some object.lastPublishedPayload)
    (middle : MqttObject) (front : List Publication)
    (done : publishState time force object = some (middle, front)) :
    object.SameSettings middle ∧ middle.Settled (history ++ front) ∧
      ∀ publication ∈ front, publication.topic = object.stateTopic := by
  obtain ⟨⟨_, _, same⟩, _⟩ := publishState_publishes time force _ _ _ done
  refine ⟨?_, (publishState_settled done repeats known).2⟩
  rw [same]
  exact ⟨rfl, rfl, rfl⟩

theorem publishState_announced {time : Int} {force : Bool}
    (done : publishState time force object = some (next, publications))
    (repeats : object.publishMode ≠ .once)
    (known : object.isAvailable = .available → force = true ∨
      object.lastState history = some object.lastPublishedPayload) :
    next.Settled (history ++ publications) ∧
      next.Announced history publications := by
  obtain ⟨settings, settled, states⟩ :=
    publishState_first repeats known next publications done
  refine ⟨settled, announced_of_others ?_⟩
  intro publication listed one
  apply object.stateTopic_ne_availabilityTopic
  exact (states publication listed).symm.trans (settings.isOne.mp one).1

theorem publishUpdate_settled {clock : RoundClock} {oldAvail : AvailableFlag}
    (retained : object.retain = true) (repeats : object.publishMode ≠ .once)
    (known : oldAvail = .available →
      object.lastState history = some object.lastPublishedPayload)
    (done : publishUpdate clock oldAvail object = some (next, publications)) :
    next.Settled (history ++ publications) ∧
      next.Announced history publications := by
  rw [publishUpdate] at done
  split at done
  · apply settled_of_publishes _ done
    intro middle front begun
    rw [publishChange, if_pos retained] at begun
    split at begun
    · exact publishState_first repeats (fun _ => .inl rfl) middle front begun
    · rename_i absent
      cases begun
      exact ⟨.refl object, fun available => absurd available absent, by simp⟩
  · rename_i unchanged
    apply publishState_announced done repeats
    intro available
    exact .inr (known ((not_not.mp unchanged).trans available))

/-- A round of a retained object. -/
theorem step_settled {round : Round × RoundClock}
    (retained : object.retain = true) (repeats : object.publishMode ≠ .once)
    (settled : object.Settled history)
    (stepped : step object round = some (next, publications)) :
    next.Settled (history ++ publications) ∧
      next.Announced history publications := by
  obtain ⟨round, clock⟩ := round
  obtain ⟨updated, updating, done⟩ := step_eq_some stepped
  have settings := round.update_settings object
  have payload := (round.update_payload object).1
  rw [updating] at settings payload
  have updatedRepeats : updated.publishMode ≠ .once := by
    rw [settings.publishMode]
    exact repeats
  have before (available : object.isAvailable = .available) :
      updated.lastState history = some updated.lastPublishedPayload := by
    rw [settings.lastState, payload]
    exact (settled available).2
  have kept (other : round.isValues = false) : updated.Settled history := by
    intro available
    have unchanged := update_eq_of_available other updating available
    rw [unchanged] at available ⊢
    exact settled available
  cases round with
  | values networkName slaveData =>
    exact publishUpdate_settled (settings.retain.trans retained)
      updatedRepeats before done
  | failed networkName slaveData =>
    have first := @publishState_first clock.publishTime false updated
      updatedRepeats history fun available => .inr (kept rfl available).2
    rw [publish] at done
    dsimp only at done
    split at done
    · exact settled_of_publishes first done
    · obtain ⟨middle, front, back, began, ended, rfl⟩ :=
        Logged.andThen_eq_some done
      cases ended
      rw [List.append_nil]
      exact publishState_announced began updatedRepeats
        fun available => .inr (kept rfl available).2
  | networkDown networkName =>
    rw [publish] at done
    dsimp only at done
    split at done
    · have settledHere : updated.Settled (history ++ []) := by
        rw [List.append_nil]
        exact kept rfl
      exact publishAvailabilityChange_announced done (by simp) settledHere
    · cases done
      rw [List.append_nil]
      exact ⟨kept rfl, announced_of_others (by simp)⟩
  | connected =>
    apply settled_of_publishes _ done
    intro middle front begun
    split at begun
    · exact publishState_first updatedRepeats (fun _ => .inl rfl) middle
        front begun
    · rename_i absent
      cases begun
      exact ⟨.refl updated, fun available => absurd available absent,
        by simp⟩

end Round

namespace MqttClient

variable {libraries : RequestLibraries} {start client next : MqttClient}
  {history publications : List Publication}

/-- In every run, after every event: while a retained object that is not
published once is available, the last payload on its state topic is that of
its current values; and before each `1` on its availability topic there is
such a payload of the values it then has. -/
theorem retained_state_current (initial : start.Initial)
    (run : Runs (step libraries) (fun client _ input => client.Smooth input)
      start client history)
    {input : ClientInput} (smooth : client.Smooth input)
    (stepped : client.step libraries input = some (next, publications))
    {id : ObjectId} (listed : start.Listed id)
    (retained : (start.store id).retain = true)
    (repeats : (start.store id).publishMode ≠ .once) :
    ((next.store id).isAvailable = .available →
      (next.store id).Current (history ++ publications)) ∧
    (next.store id).Announced history publications := by
  let holds (object : MqttObject) (own : List Publication) : Prop :=
    (start.store id).SameSettings object ∧ object.Settled own
  have kept {object after : MqttObject} {own added : List Publication}
      {round : Round × RoundClock}
      (performed : Round.step object round = some (after, added))
      (before : holds object own) :
      holds after (own ++ added) ∧ after.Announced own added := by
    have settled := Round.step_settled (before.1.retain.trans retained)
      (before.1.publishMode.trans_ne repeats) before.2 performed
    exact ⟨⟨before.1.trans (Round.step_owned performed).1, settled.1⟩,
      settled.2⟩
  have unset : holds (start.store id) [] := by
    refine ⟨.refl _, fun available => ?_⟩
    rw [(initial.fresh id listed).flag] at available
    cases available
  have before := run_object initial (fun _ _ _ permitted => permitted) listed
    unset (fun _ _ performed reached => (kept performed reached).1) run
  have after : holds (next.store id)
      (publicationsOf (start.store id) history ++
        publicationsOf (start.store id) publications) ∧
      (next.store id).Announced (publicationsOf (start.store id) history)
        (publicationsOf (start.store id) publications) := by
    rcases (run_continues initial (fun _ _ _ permitted => permitted)
        run).1.object smooth stepped listed with
      ⟨round, _, performed⟩ | ⟨same, silent⟩
    · exact kept performed before
    · rw [same, silent, List.append_nil]
      exact ⟨before, MqttObject.announced_of_others (by simp)⟩
  obtain ⟨⟨settings, settled⟩, announced⟩ := after
  rw [← publicationsOf_append, publicationsOf_of_settings settings] at settled
  rw [publicationsOf_of_settings settings,
    publicationsOf_of_settings settings] at announced
  exact ⟨fun available =>
    MqttObject.current_publicationsOf.mp (settled.current available),
    MqttObject.announced_of_publicationsOf announced⟩

theorem retained_state_current_second :
    ∃ (next : MqttClient) (history publications : List Publication),
      ((next.store 0).isAvailable = .available ∧
        MqttPayload.generate (next.store 0) = .ok ['7']) ∧
      ((next.store 0).isAvailable = .available →
        (next.store 0).Current (history ++ publications)) ∧
      (next.store 0).Announced history publications := by
  let client := [.registerValues (registerRead 5)].foldl processed
    (twoObjectClient none)
  obtain ⟨history, run⟩ := @run_of_plays noLibraries (twoObjectClient none)
    _ _ .start [.registerValues (registerRead 5)] (by decide +kernel)
  have quiet : (processModbusMessage (refusing none) "net"
      (.registerValues (registerRead 7)) client).2 = none := by
    decide +kernel
  have smooth : client.Smooth
      (.process "net" (refusing none) (.registerValues (registerRead 7))) :=
    ⟨refusing_none_accepts, by decide +kernel⟩
  have listed : (twoObjectClient none).Listed 0 :=
    .inl ⟨_, List.mem_singleton.mpr rfl, by decide⟩
  have current := retained_state_current twoObjectClient_initial run smooth
    (step_of_quiet quiet) listed rfl (by decide)
  refine ⟨_, history, _, ?_, current⟩
  decide +kernel

end MqttClient

end MqmGateway
