import SensorGateway.Proofs.Gateway.Endurance
import SensorGateway.Proofs.Gateway.ResetTarget

/-!
# Starting is all or nothing

The identities of the devices are written to the store one after the other, and each of them is read
on the way, so that the loop could stop with half of the store written. It never does, because the
settings have been validated, and validation reads all of them first: a gateway that is refused
leaves everything as it was (`start_all_or_nothing`). What has been written then is told by the last
entry for each device, and what the directory says by the last entry for each sensor.
-/

namespace SensorGateway

namespace DeviceMapping

variable {mappings : List DeviceMapping} {p : DeviceMapping → Prop}

def IsLast (p : DeviceMapping → Prop) (mappings : List DeviceMapping)
    (mapping : DeviceMapping) : Prop :=
  p mapping ∧ ∃ earlier later, mappings = earlier ++ mapping :: later ∧ ∀ other ∈ later, ¬ p other

theorem IsLast.mem {last : DeviceMapping} (h : IsLast p mappings last) : last ∈ mappings := by
  obtain ⟨_, earlier, later, rfl, _⟩ := h
  exact List.mem_append_right earlier List.mem_cons_self

theorem IsLast.cons {last : DeviceMapping} (h : IsLast p mappings last) (mapping : DeviceMapping) :
    IsLast p (mapping :: mappings) last := by
  obtain ⟨hlast, earlier, later, rfl, hlater⟩ := h
  exact ⟨hlast, mapping :: earlier, later, rfl, hlater⟩

/-- Looking from the end finds the last entry, if there is something to find in every entry that is
looked for. -/
theorem exists_isLast {α : Type} [DecidablePred p] (find? : DeviceMapping → Option α)
    (hfind : ∀ mapping ∈ mappings, p mapping → ∃ found, find? mapping = some found)
    (hexists : ∃ mapping ∈ mappings, p mapping) :
    ∃ last, IsLast p mappings last ∧
      mappings.reverse.findSome? (fun mapping => if p mapping then find? mapping else none) =
        find? last := by
  induction mappings with
  | nil =>
    obtain ⟨_, hmem, _⟩ := hexists
    cases hmem
  | cons mapping rest ih =>
    rw [List.reverse_cons, List.findSome?_append, List.findSome?_singleton]
    by_cases hagain : ∃ other ∈ rest, p other
    · have hrest : ∀ other ∈ rest, p other → ∃ found, find? other = some found :=
        fun other hmem => hfind other (List.mem_cons_of_mem mapping hmem)
      obtain ⟨last, hlast, hfound⟩ := ih hrest hagain
      obtain ⟨found, hsome⟩ := hrest last hlast.mem hlast.1
      refine ⟨last, hlast.cons mapping, ?_⟩
      rw [hfound, hsome, Option.some_or]
    · have hnone : ∀ other ∈ rest, ¬ p other := fun other hmem hp => hagain ⟨other, hmem, hp⟩
      have hp : p mapping := by
        obtain ⟨other, hmem, hp⟩ := hexists
        rcases List.mem_cons.mp hmem with rfl | hmem
        · exact hp
        · exact absurd hp (hnone other hmem)
      have hsearch : rest.reverse.findSome?
          (fun mapping => if p mapping then find? mapping else none) = none := by
        apply List.findSome?_eq_none_iff.mpr
        intro other hmem
        exact if_neg (hnone other (List.mem_reverse.mp hmem))
      refine ⟨mapping, ⟨hp, [], rest, rfl, hnone⟩, ?_⟩
      rw [hsearch, Option.none_or, if_pos hp]

end DeviceMapping

open DeviceMapping

/-- The store with the identities of all devices written to it, and nothing else. -/
structure Store.Seeded (mappings : List DeviceMapping) (before after : Store) : Prop where
  listed : ∀ mapping ∈ mappings, ∃ last identity,
    IsLast (·.device = mapping.device) mappings last ∧
      Identity.parse last.identity = .ok identity ∧
      after.read? mapping.device identityResource = some (.text identity.toHex)
  others : ∀ device resource,
    (resource = identityResource → ∀ mapping ∈ mappings, mapping.device ≠ device) →
      after.read? device resource = before.read? device resource

/-- The directory with all sensors in it, and no other ones. -/
structure Directory.Lists (mappings : List DeviceMapping) (directory : Directory) : Prop where
  listed : ∀ mapping ∈ mappings, ∃ identity last,
    Identity.parse mapping.identity = .ok identity ∧
      IsLast (fun other => Identity.parse other.identity = .ok identity) mappings last ∧
      directory.device? identity = some last.device
  others : ∀ identity, (∀ mapping ∈ mappings, Identity.parse mapping.identity ≠ .ok identity) →
    directory.device? identity = none

namespace Settings

variable {settings : Settings} {mappings : List DeviceMapping}

theorem checkDevices_eq_ok_iff :
    checkDevices mappings = .ok () ↔
      ∀ mapping ∈ mappings, ∃ identity, Identity.parse mapping.identity = .ok identity := by
  induction mappings with
  | nil => simp [checkDevices]
  | cons mapping rest ih =>
    rw [List.forall_mem_cons, ← ih, checkDevices]
    cases Identity.parse mapping.identity <;> simp

theorem exists_directoryFrom_eq (hchecked : checkDevices mappings = .ok ())
    (directory : Directory) : ∃ result, directoryFrom directory mappings = .ok result := by
  induction mappings generalizing directory with
  | nil => exact ⟨directory, rfl⟩
  | cons mapping rest ih =>
    rw [checkDevices_eq_ok_iff, List.forall_mem_cons] at hchecked
    obtain ⟨⟨identity, hparse⟩, hrest⟩ := hchecked
    rw [directoryFrom, hparse]
    exact ih (checkDevices_eq_ok_iff.mpr hrest) _

theorem exists_directory_eq (hvalid : settings.validate = .ok ()) :
    ∃ directory, settings.directory = .ok directory ∧ directory.Lists settings.devices := by
  have hchecked := (validate_eq_ok_iff.mp hvalid).2.2.2
  obtain ⟨directory, hdirectory⟩ := exists_directoryFrom_eq hchecked Directory.empty
  have hdevice : ∀ identity, directory.device? identity = lastDevice? settings.devices identity :=
    fun identity => (device?_of_directoryFrom hdirectory identity).trans Option.or_none
  refine ⟨directory, hdirectory, ?_⟩
  constructor
  case listed =>
    intro mapping hmem
    obtain ⟨identity, hparse⟩ := checkDevices_eq_ok_iff.mp hchecked mapping hmem
    obtain ⟨last, hlast, hfound⟩ := exists_isLast (p := (·.identity? = some identity))
      (fun other => some other.device) (fun other _ _ => ⟨other.device, rfl⟩)
      ⟨mapping, hmem, identity?_eq_some_iff.mpr hparse⟩
    simp only [identity?_eq_some_iff] at hlast
    exact ⟨identity, last, hparse, hlast, (hdevice identity).trans hfound⟩
  case others =>
    intro identity hnone
    rw [hdevice, lastDevice?_eq_none_iff]
    exact fun mapping hmem hidentity => hnone mapping hmem (identity?_eq_some_iff.mp hidentity)

end Settings

namespace Pipeline

variable {settings : Settings} {station : Station}

/-- Identities that have been read once are read again. -/
theorem seeded_of_seed {mappings : List DeviceMapping} {store after : Store}
    {outcome : Except Failure Unit} (hchecked : Settings.checkDevices mappings = .ok ())
    (hseed : seed store mappings = (after, outcome)) :
    outcome = .ok () ∧ store.Seeded mappings after := by
  obtain ⟨_, hall⟩ := exists_seed_eq hchecked store
  obtain ⟨rfl, rfl⟩ := Prod.mk.inj (hseed.symm.trans hall)
  have hparse := Settings.checkDevices_eq_ok_iff.mp hchecked
  have hread := read?_of_seed hseed
  refine ⟨rfl, ?_⟩
  constructor
  case listed =>
    intro mapping hmem
    have hidentity : ∀ other ∈ mappings, other.device = mapping.device →
        ∃ found, other.identity? = some found := by
      intro other hother _
      obtain ⟨identity, hidentity⟩ := hparse other hother
      exact ⟨identity, identity?_eq_some_iff.mpr hidentity⟩
    obtain ⟨last, hlast, hfound⟩ := exists_isLast DeviceMapping.identity? hidentity
      ⟨mapping, hmem, rfl⟩
    obtain ⟨identity, hlastIdentity⟩ := hparse last hlast.mem
    refine ⟨last, identity, hlast, hlastIdentity, ?_⟩
    have hstored : lastIdentity? mappings mapping.device = some identity :=
      hfound.trans (identity?_eq_some_iff.mpr hlastIdentity)
    rw [hread, if_pos rfl, hstored, Option.map_some, Option.some_or]
  case others =>
    intro device resource hother
    rw [hread]
    split_ifs with hresource
    · have hnone : lastIdentity? mappings device = none := by
        apply List.findSome?_eq_none_iff.mpr
        intro mapping hmem
        exact if_neg (hother hresource mapping (List.mem_reverse.mp hmem))
      rw [hnone, Option.map_none, Option.none_or]
    · rfl

/-- **Starting is all or nothing.** A gateway is refused for its settings, and then nothing has
changed. A gateway that starts has all devices in its store, and so has one that the platform brings
down on the way because a queue is too deep. -/
theorem start_all_or_nothing (settings : Settings) (station : Station) :
    let after := (start settings station).1
    let result := (start settings station).2
    (∀ failure, result = .error (.refused failure) →
        (∃ cause, settings.validate = .error cause ∧ failure = .invalidSettings cause) ∧
          after = station) ∧
      (∀ pipeline, result = .ok pipeline →
        pipeline.station = after ∧ station.store.Seeded settings.devices after.store) ∧
      (settings.validate = .ok () →
        (∃ store, seed station.store settings.devices = (store, .ok ())) ∧
          ∃ directory, settings.directory = .ok directory ∧ directory.Lists settings.devices) ∧
      (settings.validate = .ok () ↔ ∀ failure, result ≠ .error (.refused failure)) ∧
      ∀ fault, result = .error (.fault fault) →
        ¬ settings.Fits ∧ station.store.Seeded settings.devices after.store := by
  have hchecked : settings.validate = .ok () → Settings.checkDevices settings.devices = .ok () :=
    fun hvalid => (Settings.validate_eq_ok_iff.mp hvalid).2.2.2
  have hreads : settings.validate = .ok () →
      (∃ store, seed station.store settings.devices = (store, .ok ())) ∧
        ∃ directory, settings.directory = .ok directory ∧ directory.Lists settings.devices :=
    fun hvalid => ⟨exists_seed_eq (hchecked hvalid) station.store,
      Settings.exists_directory_eq hvalid⟩
  have hstarted := started settings station
  cases hstart : start settings station with
  | mk after result =>
    rw [hstart] at hstarted
    dsimp only
    cases hstarted with
    | refused cause hinvalid =>
      have hnot : settings.validate ≠ .ok () := by simp [hinvalid]
      refine ⟨?_, ?_, hreads, ?_, ?_⟩
      · rintro failure ⟨⟩
        exact ⟨⟨cause, hinvalid, rfl⟩, rfl⟩
      · rintro pipeline ⟨⟩
      · exact iff_of_false hnot fun hnever => hnever _ rfl
      · rintro fault ⟨⟩
    | stopped store failure hvalid hseed =>
      cases (seeded_of_seed (hchecked hvalid) hseed).1
    | tooDeep store hvalid hseed hdeep =>
      refine ⟨?_, ?_, hreads, ?_, ?_⟩
      · rintro failure ⟨⟩
      · rintro pipeline ⟨⟩
      · refine iff_of_true hvalid ?_
        rintro failure ⟨⟩
      · rintro fault -
        refine ⟨?_, (seeded_of_seed (hchecked hvalid) hseed).2⟩
        rintro ⟨hinbound, hshards⟩
        omega
    | running store hvalid hseed hfits =>
      refine ⟨?_, ?_, hreads, ?_, ?_⟩
      · rintro failure ⟨⟩
      · rintro pipeline ⟨⟩
        exact ⟨rfl, (seeded_of_seed (hchecked hvalid) hseed).2⟩
      · refine iff_of_true hvalid ?_
        rintro failure ⟨⟩
      · rintro fault ⟨⟩

/-- One device is listed twice, and one sensor in two spellings. -/
def respelled : Settings :=
  { devices :=
      [⟨"23 8a 08 26 23 19", "pump"⟩, ⟨"238A08262319", "fan"⟩, ⟨" 238a0826231a\n", "pump"⟩] }

def usedStation : Station :=
  { Station.empty "Polling" with
    store := (Store.empty.write "pump" Store.identityResource (.text "FFFFFFFFFFFF")).write
      "pump" "level" (.u8 7) }

theorem start_all_or_nothing_respelled :
    let after := (start respelled usedStation).1
    (∃ pipeline, (start respelled usedStation).2 = .ok pipeline ∧ pipeline.station = after) ∧
      after.store.read? "pump" Store.identityResource = some (.text "238A0826231A") ∧
      after.store.read? "pump" "level" = some (.u8 7) ∧
      ∃ directory, respelled.directory = .ok directory ∧ directory.Lists respelled.devices := by
  intro after
  have hvalid : respelled.validate = .ok () := by decide +kernel
  obtain ⟨pipeline, hpipeline⟩ := (start_of_validate hvalid usedStation).1 ⟨by decide, by decide⟩
  obtain ⟨_, hstarts, hreads, _, _⟩ := start_all_or_nothing respelled usedStation
  obtain ⟨hstation, hseeded⟩ := hstarts pipeline hpipeline
  have hlevel := hseeded.others "pump" "level" (by decide)
  exact ⟨⟨pipeline, hpipeline, hstation⟩, by decide +kernel, hlevel, (hreads hvalid).2⟩

end Pipeline

end SensorGateway
