import MqmGateway.Config.Handover
import MqmGateway.MqttClient.Machine

/-!
# The client of a file

The objects that the loader makes have different topics and have not published
anything.
-/

namespace MqmGateway

namespace Loaded

open ModMqtt

variable {libraries : LoaderLibraries} {config : YamlNode} {loaded : Loaded}

theorem parseObject_fresh {source : ObjectSource} {name : String}
    {object : MqttObject} {declared : List Declaration}
    (parsing : parseObject libraries source name = .ok (object, declared)) :
    object.Fresh := by
  have leaves : ∀ leaf ∈ object.leaves, leaf.2 = {} := by
    intro leaf shown
    rw [(parseObject_declares parsing).leaves_eq] at shown
    obtain ⟨ident, _, rfl⟩ := List.mem_map.mp shown
    rfl
  obtain ⟨topic, retain, mode, state, availability, _, _, rfl, rfl⟩ :=
    parseObject_parts parsing
  exact ⟨rfl, leaves, rfl, rfl⟩

theorem object_fresh (loading : load libraries config = .ok loaded)
    {object : MqttObject} (listed : object ∈ loaded.objects) :
    object.Fresh := by
  obtain ⟨_, slaveName, _, _, _, _, parts, objects, _, each⟩ :=
    load_made loading
  rw [objects] at listed
  obtain ⟨part, partListed, rfl⟩ := List.mem_map.mp listed
  exact parseObject_fresh (each part partListed).2

def connectedClient (loaded : Loaded) : MqttClient :=
  (MqttClient.onConnect (MqttClient.refusing none)
    (loaded.client .disabled "")).1

theorem connectedClient_run
    (unthrown : (MqttClient.onConnect (MqttClient.refusing none)
      (loaded.client .disabled "")).2 = none) :
    Runs (MqttClient.step noLibraries) (fun _ _ _ => True)
      (loaded.client .disabled "") loaded.connectedClient
      ([] ++ loaded.connectedClient.published.drop 0) :=
  .step .start trivial
    (show MqttClient.step noLibraries _
      (.connected (MqttClient.refusing none)) = _ from
        MqttClient.logged_of_quiet unthrown)

end Loaded

end MqmGateway
