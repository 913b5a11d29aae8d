import FleetPatch.CommandLine.Program
import FleetPatch.Proofs.Outputs

/-!
# Loading inventories

The text of an inventory is loaded, rejected, or neither. A loaded inventory has the
assets of the document's entries, in their order. A text is rejected with a fault of the
inventory, which the program tells. What is neither has a fault that nobody handles: a
document or an entry that is no object, a number in place of a list, a number with too
many digits, and too many lists and objects in each other.
-/

namespace FleetPatch

set_option autoImplicit false

variable {α : Type}

def Fault.isInventory : Fault → Bool
  | .inventory _ => true
  | _ => false

/-- A load that ends with a fault, and not with one of the inventory. -/
abbrev Breaks (loaded : Except Fault α) : Prop :=
  FailsWith (fun fault => fault.isInventory = false) loaded

theorem breaks_bind_iff {β : Type} {loaded : Except Fault α} {next : α → Except Fault β} :
    Breaks (loaded >>= next) ↔ Breaks loaded ∨ ∃ value, loaded = .ok value ∧ Breaks (next value) :=
  FailsWith.bind_iff

theorem not_breaks_ok (value : α) : ¬ Breaks (.ok value) := FailsWith.not_ok value

/-- A number or true, in place of a list. -/
def Json.isUnlisted (value : Json) : Bool := value.isPresent && value.isNumeric

theorem breaks_elements_iff (value : Json) :
    Breaks value.elementsIfPresent ↔ value.isUnlisted = true := by
  unfold Json.elementsIfPresent Json.isUnlisted
  cases present : value.isPresent with
  | false => exact iff_of_false (not_breaks_ok _) nofun
  | true =>
      cases value with
      | null => cases present
      | bool _ | int _ | real _ => exact iff_of_true ⟨_, rfl, rfl⟩ rfl
      | str _ | arr _ | obj _ => exact iff_of_false (not_breaks_ok _) nofun

namespace Asset

structure TakenFrom (entry : Json) (asset : Asset) : Prop where
  object : ∃ members, entry = .obj members ∧
    Json.member? "hostname" members = some asset.hostname ∧
    Json.member? "ip" members = some asset.ip ∧ Json.member? "os" members = some asset.os

def requiredNames : List String := ["hostname", "ip", "os"]

/-- An entry that is no object, or that has all it needs and tags that are no list. -/
inductive Misshapen : Json → Prop where
  | flat (entry : Json) (other : ∀ members, entry ≠ .obj members) : Misshapen entry
  | tags (members : List (String × Json))
      (complete : ∀ name ∈ requiredNames, (Json.member? name members).isSome = true)
      (unlisted : (Json.memberOrNull "tags" members).isUnlisted = true) : Misshapen (.obj members)

theorem required_eq_ok {name : String} {members : List (String × Json)} {value : Json} :
    required name members = .ok value ↔ Json.member? name members = some value := by
  unfold required
  cases Json.member? name members with
  | none => exact iff_of_false nofun nofun
  | some given =>
      exact ⟨fun found => congrArg some (Except.ok.inj found),
        fun found => congrArg Except.ok (Option.some.inj found)⟩

theorem not_breaks_required (name : String) (members : List (String × Json)) :
    ¬ Breaks (required name members) := by
  unfold required
  cases Json.member? name members with
  | none =>
      rintro ⟨_, ⟨⟩, other⟩
      cases other
  | some value => exact not_breaks_ok value

theorem breaks_required_iff (name : String) (members : List (String × Json))
    {next : Json → Except Fault α} {P : Prop} (rest : ∀ value, Breaks (next value) ↔ P) :
    Breaks (required name members >>= next) ↔ (Json.member? name members).isSome = true ∧ P := by
  rw [breaks_bind_iff, or_iff_right (not_breaks_required name members),
    Option.isSome_iff_exists]
  constructor
  · rintro ⟨value, found, breaks⟩
    exact ⟨⟨value, required_eq_ok.mp found⟩, (rest value).mp breaks⟩
  · rintro ⟨⟨value, found⟩, holds⟩
    exact ⟨value, required_eq_ok.mpr found, (rest value).mpr holds⟩

theorem breaks_ofJson_iff (entry : Json) : Breaks (ofJson entry) ↔ Misshapen entry := by
  cases entry with
  | obj members =>
      have tags (asset : List Json → Asset) :
          Breaks ((Json.memberOrNull "tags" members).elementsIfPresent >>= fun tags =>
            .ok (asset tags)) ↔ (Json.memberOrNull "tags" members).isUnlisted = true := by
        rw [breaks_bind_iff, breaks_elements_iff]
        exact or_iff_left fun ⟨_, _, failed⟩ => not_breaks_ok _ failed
      have broken := breaks_required_iff "hostname" members fun hostname =>
        breaks_required_iff "ip" members fun ip =>
          breaks_required_iff "os" members fun os => tags fun tags => {
            hostname, ip, os, tags
            osVersion := Json.memberOrNull "os_version" members
            role := Json.memberOrNull "role" members
            credentialRef := Json.memberOrNull "credential_ref" members
            deepFreeze := (Json.memberOrNull "deep_freeze" members).isPresent
            docker := (Json.memberOrNull "docker" members).isPresent
            packageManager := Json.memberOrNull "package_manager" members }
      refine broken.trans ⟨?_, ?_⟩
      · rintro ⟨hostname, ip, os, unlisted⟩
        refine .tags members ?_ unlisted
        simp [requiredNames, hostname, ip, os]
      · intro misshapen
        cases misshapen with
        | flat _ other => exact absurd rfl (other members)
        | tags _ complete unlisted =>
            simp only [requiredNames, List.forall_mem_cons] at complete
            exact ⟨complete.1, complete.2.1, complete.2.2.1, unlisted⟩
  | _ => exact iff_of_true ⟨_, rfl, rfl⟩ (.flat _ nofun)

theorem takenFrom_of_ofJson {entry : Json} {asset : Asset} (read : ofJson entry = .ok asset) :
    TakenFrom entry asset := by
  cases entry with
  | obj members =>
      obtain ⟨hostname, named, read⟩ := exists_of_bind_ok read
      obtain ⟨ip, addressed, read⟩ := exists_of_bind_ok read
      obtain ⟨os, systemed, read⟩ := exists_of_bind_ok read
      obtain ⟨tags, _, read⟩ := exists_of_bind_ok read
      cases read
      exact ⟨members, rfl, required_eq_ok.mp named, required_eq_ok.mp addressed,
        required_eq_ok.mp systemed⟩
  | _ => cases read

end Asset

namespace Inventory

structure ReadFrom (document : Json) (inventory : Inventory) : Prop where
  entries : ∃ members entries, document = .obj members ∧
    (Json.memberOrNull "assets" members).elementsIfPresent = .ok entries ∧
    List.Forall₂ Asset.TakenFrom entries inventory.assets

/-- A document that is no object, has a number in place of the list of entries, or has a misshapen
entry behind entries of which each gives an asset. -/
inductive Malformed : Json → Prop where
  | flat (document : Json) (other : ∀ members, document ≠ .obj members) : Malformed document
  | unlisted (members : List (String × Json))
      (unlisted : (Json.memberOrNull "assets" members).isUnlisted = true) : Malformed (.obj members)
  | entry (members : List (String × Json)) (before : List Json) (entry : Json) (after : List Json)
      (listed : (Json.memberOrNull "assets" members).elementsIfPresent =
        .ok (before ++ entry :: after))
      (read : ∀ earlier ∈ before, ∃ asset, Asset.ofJson earlier = .ok asset)
      (misshapen : Asset.Misshapen entry) : Malformed (.obj members)

theorem breaks_ofJson_iff (document : Json) : Breaks (ofJson document) ↔ Malformed document := by
  cases document with
  | obj members =>
      have assets (entries : List Json) :
          Breaks (entries.mapM Asset.ofJson >>= fun assets =>
            .ok (Inventory.mk ((Json.memberOrNull "credentials" members).orElse (.obj [])) assets)) ↔
            ∃ before entry after, entries = before ++ entry :: after ∧
              (∀ earlier ∈ before, ∃ asset, Asset.ofJson earlier = .ok asset) ∧
              Asset.Misshapen entry := by
        rw [breaks_bind_iff, or_iff_left (fun ⟨_, _, failed⟩ => not_breaks_ok _ failed)]
        refine (FailsWith.mapM_iff entries).trans ?_
        change (∃ before entry after, _ ∧ _ ∧ Breaks (Asset.ofJson entry)) ↔ _
        simp only [Asset.breaks_ofJson_iff]
      change Breaks ((Json.memberOrNull "assets" members).elementsIfPresent >>= _) ↔ _
      rw [breaks_bind_iff, breaks_elements_iff]
      constructor
      · rintro (unlisted | ⟨entries, listed, breaks⟩)
        · exact .unlisted members unlisted
        · obtain ⟨before, entry, after, rfl, read, misshapen⟩ := (assets entries).mp breaks
          exact .entry members before entry after listed read misshapen
      · intro malformed
        cases malformed with
        | flat _ other => exact absurd rfl (other members)
        | unlisted _ unlisted => exact .inl unlisted
        | entry _ before entry after listed read misshapen =>
            have breaks := (assets _).mpr ⟨before, entry, after, rfl, read, misshapen⟩
            exact .inr ⟨_, listed, breaks⟩
  | _ => exact iff_of_true ⟨_, rfl, rfl⟩ (.flat _ nofun)

theorem readFrom_of_ofJson {document : Json} {inventory : Inventory}
    (read : ofJson document = .ok inventory) : ReadFrom document inventory := by
  cases document with
  | obj members =>
      obtain ⟨entries, listed, read⟩ := exists_of_bind_ok read
      obtain ⟨assets, mapped, read⟩ := exists_of_bind_ok read
      cases read
      exact ⟨members, entries, rfl, listed,
        (mapM_eq_ok_iff.mp mapped).imp fun _ _ => Asset.takenFrom_of_ofJson⟩
  | _ => cases read

/-- A text with a number of too many digits, with too many lists and objects in each other, or with
a malformed document. -/
inductive Unusable (content : String) : Prop where
  | digits (count : Nat) (read : Json.read content = .error (.tooManyDigits count))
  | depth (read : Json.read content = .error .tooDeep)
  | document (document : Json) (read : Json.read content = .ok document)
      (malformed : Malformed document)

theorem breaks_ofText_iff (path content : String) :
    Breaks (ofText path content) ↔ Unusable content := by
  unfold ofText
  cases read : Json.read content with
  | ok document =>
      refine (breaks_ofJson_iff document).trans ⟨.document document read, ?_⟩
      rintro (⟨count, other⟩ | other | ⟨document, other, malformed⟩)
      · cases read.symm.trans other
      · cases read.symm.trans other
      · cases read.symm.trans other
        exact malformed
  | error fault =>
      cases fault with
      | grammar =>
          apply iff_of_false
          · rintro ⟨_, ⟨⟩, other⟩
            cases other
          · rintro (⟨_, other⟩ | other | ⟨_, other, _⟩) <;> cases read.symm.trans other
      | tooManyDigits count => exact iff_of_true ⟨_, rfl, rfl⟩ (.digits count read)
      | tooDeep => exact iff_of_true ⟨_, rfl, rfl⟩ (.depth read)

/-- A loaded inventory is that of the document in the text; a rejected text has a fault of the
inventory. -/
inductive Settled (content : String) : Except Fault Inventory → Prop where
  | loaded {document : Json} {inventory : Inventory} (read : Json.read content = .ok document)
      (given : ReadFrom document inventory) : Settled content (.ok inventory)
  | rejected (cause : InventoryCause) : Settled content (.error (.inventory cause))

theorem settled_iff (path content : String) :
    Settled content (ofText path content) ↔ ¬ Unusable content := by
  rw [← breaks_ofText_iff path]
  constructor
  · rintro settled ⟨fault, failed, other⟩
    rw [failed] at settled
    cases settled
    cases other
  · intro unbroken
    cases loaded : ofText path content with
    | error fault =>
        cases fault with
        | inventory cause => exact .rejected cause
        | _ => exact absurd ⟨_, loaded, rfl⟩ unbroken
    | ok inventory =>
        unfold ofText at loaded
        cases read : Json.read content with
        | error fault => cases fault <;> (rw [read] at loaded; cases loaded)
        | ok document =>
            rw [read] at loaded
            exact .loaded read (readFrom_of_ofJson loaded)

abbrev Plain (loaded : Except Fault α) : Prop :=
  FailsOnly (fun fault => fault.isOwn = fault.isInventory) loaded

theorem plain_elements (value : Json) : Plain value.elementsIfPresent := by
  unfold Json.elementsIfPresent
  split
  · cases value with
    | arr _ | str _ | obj _ => exact .ok _
    | _ => exact .error rfl
  · exact .ok _

theorem plain_required (name : String) (members : List (String × Json)) :
    Plain (Asset.required name members) := by
  unfold Asset.required
  split
  · exact .ok _
  · exact .error rfl

theorem plain_asset (entry : Json) : Plain (Asset.ofJson entry) := by
  cases entry with
  | obj members =>
      exact .bind (plain_required _ _) fun _ => .bind (plain_required _ _) fun _ =>
        .bind (plain_required _ _) fun _ => .bind (plain_elements _) fun _ => .ok _
  | _ => exact .error rfl

theorem plain_ofText (path content : String) : Plain (ofText path content) := by
  unfold ofText
  cases Json.read content with
  | error fault => cases fault <;> exact .error rfl
  | ok document =>
      cases document with
      | obj members =>
          exact .bind (plain_elements _) fun _ => .bind (.mapM plain_asset _) fun _ => .ok _
      | _ => exact .error rfl

end Inventory

namespace CommandLine

variable {σ : Type} (site : Site σ) {words : List String} {arguments : Arguments}

def Site.location (arguments : Arguments) : String :=
  Inventory.location site.installation site.environment arguments.inventory

structure Site.Keeps (arguments : Arguments) (content : String) : Prop where
  permitted : Path.refused (fun place => site.files place == some .directory)
    (site.location arguments) = false
  written : site.files (site.location arguments) = some (.text content)

def Site.load (arguments : Arguments) : Except Fault Inventory :=
  Inventory.load site.files (site.location arguments)

variable {site}

theorem Site.Keeps.load_eq {content : String} (keeps : site.Keeps arguments content) :
    site.load arguments = Inventory.ofText (site.location arguments) content := by
  rw [Site.load, Inventory.load, keeps.permitted, keeps.written]
  rfl

theorem run_of_unloaded {fault : Fault} (read : Arguments.read words = .ok arguments)
    (failed : site.load arguments = .error fault) (hosts : σ) :
    run site words hosts =
      match faultLine? fault with
      | some text => (⟨.ok 1, text ++ "\n"⟩, hosts)
      | none => (⟨.error fault, ""⟩, hosts) := by
  have stopped : carryOut site arguments ("", hosts) = (.error fault, ("", hosts)) :=
    Run.bind_apply_error (congrArg (·, ("", hosts)) failed)
  have told : tellingFaults (carryOut site arguments) ("", hosts) =
      match faultLine? fault with
      | some text => (.ok 1, ("" ++ text ++ "\n", hosts))
      | none => (.error fault, ("", hosts)) := by
    rw [tellingFaults, Run.orHandle_apply_error stopped]
    cases faultLine? fault <;> rfl
  unfold run
  rw [read]
  dsimp only
  rw [told]
  cases faultLine? fault <;> simp

/-- The text of an inventory is loaded or rejected exactly if it is usable. A program that loads
none tells why and ends with one, or is ended by a fault that nothing handles if the text is
unusable. -/
theorem inventory_settled_iff {content : String} (read : Arguments.read words = .ok arguments)
    (keeps : site.Keeps arguments content) (hosts : σ) :
    (Inventory.Settled content (site.load arguments) ↔ ¬ Inventory.Unusable content) ∧
    ∀ fault, site.load arguments = .error fault →
      (¬ Inventory.Unusable content →
        run site words hosts = (⟨.ok 1, "Error: " ++ fault.message ++ "\n"⟩, hosts)) ∧
      (Inventory.Unusable content → run site words hosts = (⟨.error fault, ""⟩, hosts)) := by
  rw [keeps.load_eq]
  refine ⟨Inventory.settled_iff _ content, fun fault failed => ?_⟩
  have ended := run_of_unloaded read (keeps.load_eq.trans failed) hosts
  have plain : fault.isOwn = fault.isInventory := Inventory.plain_ofText _ content fault failed
  constructor
  · intro usable
    have settled := (Inventory.settled_iff (site.location arguments) content).mpr usable
    rw [failed] at settled
    cases settled with
    | rejected cause => exact ended
  · intro unusable
    obtain ⟨_, other, broken⟩ := (Inventory.breaks_ofText_iff _ content).mpr unusable
    cases failed.symm.trans other
    rw [broken] at plain
    have untold : faultLine? fault = none := by
      unfold faultLine?
      cases fault <;> first | rfl | cases plain
    rw [untold] at ended
    exact ended

def siteOf (content : String) : Site Unit where
  files := fun _ => some (.text content)
  installation := ""
  environment := []
  stack := .upTo 100
  hosts := fun _ => ⟨fun _ => true, pure (), fun _ => pure .silent, pure ()⟩

theorem siteOf_keeps (content : String) :
    (siteOf content).Keeps ⟨none, .summary none⟩ content := by
  have permitted : Path.refused (fun _ => false) (Inventory.location "" [] none) = false := by
    decide +kernel
  exact ⟨permitted, rfl⟩

/-- A number in place of the assets is no inventory, and the program ends without telling so. -/
theorem numbered_assets_unsettled :
    ¬ Inventory.Settled "\x7b\"assets\": 5\x7d"
        ((siteOf "\x7b\"assets\": 5\x7d").load ⟨none, .summary none⟩) ∧
      run (siteOf "\x7b\"assets\": 5\x7d") ["summary"] () = (⟨.error .wrongType, ""⟩, ()) := by
  have read : Json.read "\x7b\"assets\": 5\x7d" = .ok (.obj [("assets", .int 5)]) := by
    unfold Json.read
    simp only [String.reduceToList]
    rfl
  have failed : (siteOf "\x7b\"assets\": 5\x7d").load ⟨none, .summary none⟩ =
      .error .wrongType := by
    rw [(siteOf_keeps _).load_eq, Inventory.ofText, read]
    rfl
  constructor
  · rw [failed]
    exact nofun
  · exact run_of_unloaded (by rfl) failed ()

/-- A list in place of the document is no inventory, and nothing tells so. -/
theorem listed_inventory_unhandled :
    Arguments.read ["summary"] = .ok ⟨none, .summary none⟩ ∧
      (siteOf "[]").load ⟨none, .summary none⟩ = .error .unsupportedOperation ∧
      run (siteOf "[]") ["summary"] () = (⟨.error .unsupportedOperation, ""⟩, ()) := by
  have understood : Arguments.read ["summary"] = .ok ⟨none, .summary none⟩ := by rfl
  have read : Json.read "[]" = .ok (.arr []) := by
    unfold Json.read
    simp only [String.reduceToList]
    rfl
  have keeps := siteOf_keeps "[]"
  have failed : (siteOf "[]").load ⟨none, .summary none⟩ = .error .unsupportedOperation := by
    rw [keeps.load_eq, Inventory.ofText, read]
    rfl
  have unusable : Inventory.Unusable "[]" := .document _ read (.flat _ nofun)
  exact ⟨understood, failed,
    ((inventory_settled_iff understood keeps ()).2 _ failed).2 unusable⟩

end CommandLine

end FleetPatch
