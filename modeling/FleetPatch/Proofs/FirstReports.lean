import FleetPatch.Proofs.Comparisons
import FleetPatch.Proofs.Outputs
import FleetPatch.Proofs.Spellings

/-!
# First reports of installed updates

A listing has one update for each identifier that a record of it reports. The update is made of the
first record that reports it, and the updates stand in the order of these records. What is reported
again changes nothing, however it is spelled, and a record on its own is a listing of one.
-/

namespace FleetPatch.Windows

set_option autoImplicit false

def reportedId (record : Entry) : Option String := KbId.normalize? (field "HotFixID" record)

def firstPlace (records : List Entry) (id : String) : Nat :=
  records.findIdx fun record => reportedId record == some id

structure InstalledUpdate.Told (record : Entry) (update : InstalledUpdate) : Prop where
  kbId : reportedId record = some update.kbId
  description : update.description = (field "Description" record).presence?
  installedOn : update.installedOn = Date.ofJson? (field "InstalledOn" record)
  installedBy : update.installedBy = (field "InstalledBy" record).presence?
  source : update.source = (field "Source" record).orElse (.str "hotfix")

/-- Each update tells the first record that reports its identifier, and the updates stand in the
order of these records. -/
structure InPlace (records : List Entry) (updates : List InstalledUpdate) : Prop where
  ordered : updates.Pairwise fun earlier later =>
    firstPlace records earlier.kbId < firstPlace records later.kbId
  taken : ∀ update ∈ updates, ∃ record,
    records[firstPlace records update.kbId]? = some record ∧ InstalledUpdate.Told record update

/-- The updates are the first reports of the records: one for each identifier that is reported. -/
structure FirstReports (records : List Entry) (updates : List InstalledUpdate) : Prop
    extends InPlace records updates where
  distinct : (updates.map (·.kbId)).Nodup
  canonical : ∀ update ∈ updates, KbId.normalize? (.str update.kbId) = some update.kbId
  complete : ∀ id, id ∈ updates.map (·.kbId) ↔ ∃ record ∈ records, reportedId record = some id

/-- A list, or a record without an error to report. -/
inductive Listing : Json → Prop where
  | items (items : List Json) : Listing (.arr items)
  | record (members : Entry) (unreported : (Json.memberOrNull "Error" members).isPresent = false) :
      Listing (.obj members)

section Entries

variable {record : Entry} {rest : List Entry} {seen : List String} {id : String}

theorem ofEntries_unreported (unnamed : reportedId record = none) :
    InstalledUpdate.ofEntries seen (record :: rest) = InstalledUpdate.ofEntries seen rest := by
  have unread : KbId.normalize? (field "HotFixID" record) = none := unnamed
  simp only [InstalledUpdate.ofEntries, unread]

theorem ofEntries_again (reported : reportedId record = some id) (known : id ∈ seen) :
    InstalledUpdate.ofEntries seen (record :: rest) = InstalledUpdate.ofEntries seen rest := by
  have read : KbId.normalize? (field "HotFixID" record) = some id := reported
  simp only [InstalledUpdate.ofEntries, read, List.contains_iff_mem.mpr known, if_true]

theorem ofEntries_first (reported : reportedId record = some id) (unknown : id ∉ seen) :
    InstalledUpdate.ofEntries seen (record :: rest) =
      .ofEntry id record :: InstalledUpdate.ofEntries (id :: seen) rest := by
  have missing : seen.contains id = false := by simpa using unknown
  have read : KbId.normalize? (field "HotFixID" record) = some id := reported
  simp only [InstalledUpdate.ofEntries, read, missing, Bool.false_eq_true, if_false]

theorem told_ofEntry (reported : reportedId record = some id) :
    InstalledUpdate.Told record (.ofEntry id record) :=
  ⟨reported, rfl, rfl, rfl, rfl⟩

theorem unseen_of_mem {update : InstalledUpdate} {records : List Entry}
    (member : update ∈ InstalledUpdate.ofEntries seen records) : update.kbId ∉ seen :=
  (mem_ofEntries.mp (List.mem_map_of_mem member)).1

theorem firstPlace_cons_self (reported : reportedId record = some id) :
    firstPlace (record :: rest) id = 0 := by
  simp [firstPlace, List.findIdx_cons, reported]

theorem firstPlace_cons_other (other : reportedId record ≠ some id) :
    firstPlace (record :: rest) id = firstPlace rest id + 1 := by
  simp [firstPlace, List.findIdx_cons, beq_eq_false_iff_ne.mpr other]

/-- A record that reports no identifier of the updates moves their places one further on. -/
theorem InPlace.behind {updates : List InstalledUpdate} (inPlace : InPlace rest updates)
    (others : ∀ update ∈ updates, reportedId record ≠ some update.kbId) :
    InPlace (record :: rest) updates where
  ordered := by
    apply inPlace.ordered.imp_of_mem
    intro earlier later first second before
    rw [firstPlace_cons_other (others earlier first), firstPlace_cons_other (others later second)]
    omega
  taken update member := by
    rw [firstPlace_cons_other (others update member), List.getElem?_cons_succ]
    exact inPlace.taken update member

theorem InPlace.first {updates : List InstalledUpdate} (reported : reportedId record = some id)
    (inPlace : InPlace rest updates) (others : ∀ update ∈ updates, update.kbId ≠ id) :
    InPlace (record :: rest) (.ofEntry id record :: updates) := by
  have unreported : ∀ update ∈ updates, reportedId record ≠ some update.kbId := by
    intro update member same
    exact others update member (Option.some.inj (same.symm.trans reported))
  have front : firstPlace (record :: rest) id = 0 := firstPlace_cons_self reported
  constructor
  · refine List.pairwise_cons.mpr ⟨fun later member => ?_, (inPlace.behind unreported).ordered⟩
    rw [firstPlace_cons_other (unreported later member)]
    change firstPlace (record :: rest) id < _
    omega
  · intro update member
    rcases List.mem_cons.mp member with rfl | later
    · refine ⟨record, ?_, told_ofEntry reported⟩
      change (record :: rest)[firstPlace (record :: rest) id]? = some record
      rw [front]
      rfl
    · exact (inPlace.behind unreported).taken update later

theorem ofEntries_inPlace (records : List Entry) (seen : List String) :
    InPlace records (InstalledUpdate.ofEntries seen records) := by
  induction records generalizing seen with
  | nil => exact ⟨.nil, nofun⟩
  | cons record rest induction =>
      cases reported : reportedId record with
      | none =>
          rw [ofEntries_unreported reported]
          exact (induction seen).behind fun update member => by simp [reported]
      | some id =>
          by_cases known : id ∈ seen
          · rw [ofEntries_again reported known]
            apply (induction seen).behind
            intro update member same
            rw [Option.some.inj (reported.symm.trans same)] at known
            exact unseen_of_mem member known
          · rw [ofEntries_first reported known]
            apply (induction (id :: seen)).first reported
            rintro update member rfl
            exact unseen_of_mem member List.mem_cons_self

/-- A record that reports what was reported before it changes nothing. -/
theorem ofEntries_without {before after : List Entry} {later : Entry}
    (reported : reportedId later = some id)
    (known : id ∈ seen ∨ ∃ earlier ∈ before, reportedId earlier = some id) :
    InstalledUpdate.ofEntries seen (before ++ later :: after) =
      InstalledUpdate.ofEntries seen (before ++ after) := by
  induction before generalizing seen with
  | nil => exact ofEntries_again reported (known.resolve_right fun ⟨_, member, _⟩ => nomatch member)
  | cons first before induction =>
      simp only [List.mem_cons, exists_eq_or_imp] at known
      simp only [List.cons_append]
      cases named : reportedId first with
      | none =>
          rw [ofEntries_unreported named, ofEntries_unreported named, induction]
          simpa [named] using known
      | some other =>
          by_cases present : other ∈ seen
          · rw [ofEntries_again named present, ofEntries_again named present, induction]
            grind
          · rw [ofEntries_first named present, ofEntries_first named present, induction]
            grind

end Entries

theorem firstReports_ofEntries (records : List Entry) :
    FirstReports records (InstalledUpdate.ofEntries [] records) := by
  have inPlace := ofEntries_inPlace records []
  have complete (id : String) : id ∈ (InstalledUpdate.ofEntries [] records).map (·.kbId) ↔
      ∃ record ∈ records, reportedId record = some id := by
    simp [mem_ofEntries, reportedId]
  refine ⟨inPlace, ?_, fun update member => ?_, complete⟩
  · rw [List.Nodup, List.pairwise_map]
    apply inPlace.ordered.imp
    intro earlier later before same
    rw [same] at before
    exact Nat.lt_irrefl _ before
  · obtain ⟨record, _, reported⟩ := (complete update.kbId).mp (List.mem_map_of_mem member)
    exact KbId.normalize_of_normalized reported

theorem parse_of_listing {stdout : Option String} {value : Json}
    (written : document stdout = .ok value) (listing : Listing value) :
    InstalledUpdate.parse stdout = .ok (InstalledUpdate.ofEntries [] (records value)) := by
  have shows : Shows stdout value := by
    apply Shows.value written
    cases listing with
    | items items => rfl
    | record members unreported => exact unreported
  have listed : entries value = .ok (records value) := by
    cases listing <;> rfl
  rw [InstalledUpdate.parse, bind_of_ok (loadOutput_of_shown _ shows), bind_of_ok listed]

/-- Output that is a list, or a record without an error to report, is read, and what is read are the
first reports of its records. A record on its own is read like the list of it, and a list is read in
the same way without an item that reports again what an item before it reports. -/
theorem listing_has_first_reports {stdout : Option String} {value : Json}
    (written : document stdout = .ok value) (listing : Listing value) :
    ∃ updates, InstalledUpdate.parse stdout = .ok updates ∧
      FirstReports (records value) updates ∧
      (∀ members other, value = .obj members → document other = .ok (.arr [.obj members]) →
        InstalledUpdate.parse other = .ok updates) ∧
      ∀ before later after id other, value = .arr (before ++ .obj later :: after) →
        reportedId later = some id →
        (∃ earlier, .obj earlier ∈ before ∧ reportedId earlier = some id) →
        document other = .ok (.arr (before ++ after)) →
        InstalledUpdate.parse other = .ok updates := by
  refine ⟨_, parse_of_listing written listing, firstReports_ofEntries _, ?_, ?_⟩
  · rintro members other rfl single
    have read := parse_of_listing single (.items [.obj members])
    exact read
  · rintro before later after id other rfl reported ⟨earlier, member, named⟩ shorter
    have known : id ∈ [] ∨ ∃ record ∈ before.filterMap entry?, reportedId record = some id :=
      .inr ⟨earlier, List.mem_filterMap.mpr ⟨_, member, rfl⟩, named⟩
    rw [parse_of_listing shorter (.items _)]
    simp only [records, List.filterMap_append, List.filterMap_cons, entry?]
    rw [ofEntries_without reported known]

/-- Three records beside a number. The second reports what the first does, in another spelling and
from another source. -/
def respelled : String :=
  "[\x7b\"HotFixID\":\"kb 507\",\"Description\":\"A\",\"InstalledOn\":\"2025-01-02\"," ++
    "\"InstalledBy\":\"B\",\"Source\":\"C\"\x7d,7," ++
    "\x7b\"HotFixID\":\" 507,9\",\"Source\":\"D\"\x7d,\x7b\"HotFixID\":890\x7d]"

def unrepeated : String :=
  "[\x7b\"HotFixID\":\"kb 507\",\"Description\":\"A\",\"InstalledOn\":\"2025-01-02\"," ++
    "\"InstalledBy\":\"B\",\"Source\":\"C\"\x7d,7,\x7b\"HotFixID\":890\x7d]"

set_option maxRecDepth 4000 in
/-- An identifier that is spelled in two ways is listed once, as it was reported first. -/
theorem respelled_update_listed_once :
    let first : Entry := [("HotFixID", .str "kb 507"), ("Description", .str "A"),
      ("InstalledOn", .str "2025-01-02"), ("InstalledBy", .str "B"), ("Source", .str "C")]
    let again : Entry := [("HotFixID", .str " 507,9"), ("Source", .str "D")]
    let last : Entry := [("HotFixID", .int 890)]
    let value := Json.arr [.obj first, .int 7, .obj again, .obj last]
    document (some respelled) = .ok value ∧ Listing value ∧ ∃ updates,
      InstalledUpdate.parse (some respelled) = .ok updates ∧
      InstalledUpdate.parse (some unrepeated) = .ok updates ∧
      FirstReports (records value) updates ∧
      updates = [⟨"KB507", some "A", some ⟨2025, 1, 2⟩, some "B", .str "C"⟩,
        ⟨"KB890", none, none, none, .str "hotfix"⟩] := by
  intro first again last value
  have written : document (some respelled) = .ok value := by
    unfold respelled
    simp only [document_eq, String.toList_append, String.reduceToList]
    rfl
  have shorter : document (some unrepeated) = .ok (.arr [.obj first, .int 7, .obj last]) := by
    unfold unrepeated
    simp only [document_eq, String.toList_append, String.reduceToList]
    rfl
  have firstId : reportedId first = some "KB507" := by decide +kernel
  have sameId : reportedId again = some "KB507" := by decide +kernel
  have lastId : reportedId last = some "KB890" := by decide +kernel
  obtain ⟨updates, read, reports, _, without⟩ := listing_has_first_reports written (.items _)
  refine ⟨written, .items _, updates, read, ?_, reports, ?_⟩
  · exact without [.obj first, .int 7] again [.obj last] "KB507" (some unrepeated) rfl sameId
      ⟨first, List.mem_cons_self, firstId⟩ shorter
  · have listed := Except.ok.inj (read.symm.trans (parse_of_listing written (.items _)))
    have other : "KB890" ∉ ["KB507"] := by decide
    rw [listed]
    change InstalledUpdate.ofEntries [] [first, again, last] = _
    rw [ofEntries_first firstId List.not_mem_nil, ofEntries_again sameId List.mem_cons_self,
      ofEntries_first lastId other]
    have described : InstalledUpdate.ofEntry "KB507" first =
        ⟨"KB507", some "A", some ⟨2025, 1, 2⟩, some "B", .str "C"⟩ := by
      have description : Json.presence? (.str "A") = some "A" := by decide +kernel
      have date : Date.ofJson? (.str "2025-01-02") = some ⟨2025, 1, 2⟩ := by decide +kernel
      have author : Json.presence? (.str "B") = some "B" := by decide +kernel
      change (⟨"KB507", Json.presence? (.str "A"), Date.ofJson? (.str "2025-01-02"),
        Json.presence? (.str "B"), .str "C"⟩ : InstalledUpdate) = _
      rw [description, date, author]
    rw [described]
    rfl

end FleetPatch.Windows
