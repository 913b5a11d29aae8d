import FleetPatch.Endpoint
import FleetPatch.Proofs.LowerCase
import FleetPatch.Proofs.Sending

/-!
# Endpoints and ecosystems

The system of an asset decides how it is reached and which ecosystem it has. It has
an ecosystem exactly if there is an endpoint for it, and the queries and executors of
the ecosystem send what the endpoint is there for. The name of a package manager that
is not known names no ecosystem.
-/

namespace FleetPatch

set_option autoImplicit false

variable {σ : Type}

def Ecosystem.names : List String := ["windows", "apt", "dnf"]

theorem Ecosystem.names_plain {name : String} (listed : name ∈ names) :
    ∀ character ∈ name.toList, Text.IsPlain character := by
  simp only [names, List.mem_cons, List.not_mem_nil, or_false] at listed
  rcases listed with rfl | rfl | rfl <;> simp [Text.IsPlain]

theorem Ecosystem.lower_name {name : String} (listed : name ∈ names) : Text.lower name = name := by
  simp only [names, List.mem_cons, List.not_mem_nil, or_false] at listed
  rcases listed with rfl | rfl | rfl <;> exact Text.lower_eq_self (by simp [Text.IsCapital])

theorem Ecosystem.ofName?_eq_none_iff {name : String} : ofName? name = none ↔ name ∉ names := by
  unfold ofName? names
  simp only [List.mem_cons, List.not_mem_nil, or_false, not_or]
  by_cases windows : name = "windows"
  · simp [windows]
  · by_cases apt : name = "apt"
    · simp [apt]
    · by_cases dnf : name = "dnf" <;> simp [windows, apt, dnf]

theorem Ecosystem.ofJson_text (kind : String) :
    ofJson (.str kind) =
      match ofName? (Text.lower kind) with
      | some ecosystem => .ok ecosystem
      | none => .error (.unsupportedManager kind) := by
  have shown : (if (Json.str kind).isPresent then (Json.str kind).text else "") = kind := by
    by_cases empty : kind = ""
    · subst empty
      rfl
    · exact if_pos (bne_iff_ne.mpr empty)
  rw [ofJson, shown]
  rfl

theorem Ecosystem.ofJson_of_unknown {name : String} (unknown : Text.lower name ∉ names) :
    ofJson (.str (Text.lower name)) = .error (.unsupportedManager (Text.lower name)) := by
  have missing : ofName? (Text.lower (Text.lower name)) = none := by
    apply ofName?_eq_none_iff.mpr
    intro listed
    have same : Text.lower name = Text.lower (Text.lower name) :=
      Text.lower_eq_of_lower_lower (names_plain listed) rfl
    rw [same] at unknown
    exact unknown listed
  rw [ofJson_text, missing]

theorem Ecosystem.ofJson_of_name {name : String} (listed : name ∈ names) :
    ∃ ecosystem : Ecosystem, ofJson (.str name) = .ok ecosystem ∧ ecosystem.name = name := by
  rw [ofJson_text, lower_name listed]
  simp only [names, List.mem_cons, List.not_mem_nil, or_false] at listed
  rcases listed with rfl | rfl | rfl
  · exact ⟨.windows, rfl, rfl⟩
  · exact ⟨.packages .apt, rfl, rfl⟩
  · exact ⟨.packages .dnf, rfl, rfl⟩

theorem Ecosystem.name_eq_windows {ecosystem : Ecosystem} :
    ecosystem.name = "windows" ↔ ecosystem = .windows := by
  cases ecosystem with
  | windows => decide
  | packages manager => cases manager <;> decide

def Endpoint.isRemote : Endpoint → Bool
  | .winRm _ => true
  | .ssh _ => false

def Endpoint.Takes : Endpoint → String → Prop
  | .winRm _, command => Ecosystem.windows.Sends command
  | .ssh _, command => ∃ manager, (Ecosystem.packages manager).Sends command

/-- No command is one for Windows and one of a package manager. -/
theorem Endpoint.Takes.apart {endpoint other : Endpoint} {command : String}
    (takes : endpoint.Takes command) (differ : other.isRemote ≠ endpoint.isRemote) :
    ¬ other.Takes command := by
  intro also
  cases endpoint with
  | winRm config =>
      cases other with
      | winRm _ => exact differ rfl
      | ssh _ =>
          obtain ⟨manager, shell⟩ := also
          exact Ecosystem.Sends.not_packages takes manager shell
  | ssh config =>
      obtain ⟨manager, shell⟩ := takes
      cases other with
      | winRm _ => exact Ecosystem.Sends.not_packages also manager shell
      | ssh _ => exact differ rfl

/-- An endpoint and an ecosystem that go together: query and executor are those of Windows exactly
if the endpoint is, and all that either sends, whatever it is asked, is what such endpoints take and
no others do. -/
structure Endpoint.Fits (endpoint : Endpoint) (ecosystem : Ecosystem) : Prop where
  query : (Agent.query ecosystem).ecosystem = .windows ↔ endpoint.isRemote = true
  executor : (Agent.executor ecosystem).ecosystem = .windows ↔ endpoint.isRemote = true
  sends : ∀ {σ : Type} (name : String) (host : Transport σ) (requests : List Request) (now : σ),
    ∀ agent ∈ [Agent.query ecosystem, Agent.executor ecosystem],
      ∀ deed ∈ Agent.deeds name host requests (agent, now),
        ∀ execution ∈ deed.exchanges.executions,
          endpoint.Takes execution.command ∧
            ∀ other : Endpoint, other.isRemote ≠ endpoint.isRemote → ¬ other.Takes execution.command

theorem Agent.query_ecosystem (ecosystem : Ecosystem) :
    (query ecosystem).ecosystem = ecosystem := by
  cases ecosystem <;> rfl

theorem Agent.executor_ecosystem (ecosystem : Ecosystem) :
    (executor ecosystem).ecosystem = ecosystem := by
  cases ecosystem <;> rfl

theorem Endpoint.fits_of_agreement {endpoint : Endpoint} {ecosystem : Ecosystem}
    (agree : ecosystem = .windows ↔ endpoint.isRemote = true) : endpoint.Fits ecosystem where
  query := by rw [Agent.query_ecosystem, agree]
  executor := by rw [Agent.executor_ecosystem, agree]
  sends := by
    intro σ name host requests now agent member deed done execution executed
    have belongs : agent.ecosystem = ecosystem := by
      simp only [List.mem_cons, List.not_mem_nil, or_false] at member
      rcases member with rfl | rfl
      · exact Agent.query_ecosystem ecosystem
      · exact Agent.executor_ecosystem ecosystem
    have sent := Agent.sends_of_deeds name host requests agent now deed done execution executed
    rw [belongs] at sent
    have taken : endpoint.Takes execution.command := by
      cases endpoint with
      | winRm config =>
          cases agree.mpr rfl
          exact sent
      | ssh config =>
          cases ecosystem with
          | windows => cases agree.mp rfl
          | packages manager => exact ⟨manager, sent⟩
    exact ⟨taken, fun _ differ => taken.apart differ⟩

namespace Asset

def ofTexts (base : Asset) (system : String) (manager : Option String) : Asset :=
  { base with os := .str system, packageManager := Json.ofText? manager }

/-- The package manager of a Linux asset: apt unless another one is given. -/
def managerName : Option String → String
  | none => "apt"
  | some name => if name = "" then "apt" else name

/-- Whether a Linux asset is given the name of the other system in place of a package manager's. -/
def Misnamed (asset : Asset) : Prop :=
  asset.isLinux = .ok true ∧ asset.ecosystem = .ok (some "windows")

variable (base : Asset) (system : String) (manager : Option String)

theorem isWindows_ofTexts :
    (ofTexts base system manager).isWindows = .ok (namesWindows (Text.lower system)) := rfl

theorem isLinux_ofTexts :
    (ofTexts base system manager).isLinux = .ok (Text.lower system == "linux") := rfl

theorem ecosystem_ofTexts :
    (ofTexts base system manager).ecosystem = .ok (
      if namesWindows (Text.lower system) then some "windows"
      else if Text.lower system = "linux" then some (Text.lower (managerName manager))
      else none) := by
  have given : ((Json.ofText? manager).orElse (.str "apt")).asText = .ok (managerName manager) := by
    cases manager with
    | none => rfl
    | some name =>
        by_cases empty : name = ""
        · subst empty
          rfl
        · have present : (Json.str name).isPresent = true := bne_iff_ne.mpr empty
          simp only [Json.ofText?, Json.orElse, present, if_true, managerName, empty, if_false]
          rfl
  unfold Asset.ecosystem
  rw [isWindows_ofTexts, isLinux_ofTexts]
  cases namesWindows (Text.lower system) with
  | true => rfl
  | false =>
      by_cases linux : Text.lower system = "linux"
      · simp only [bind, Except.bind, Bool.false_eq_true, if_false, if_true, linux,
          beq_self_eq_true]
        change (do let manager ← ((Json.ofText? manager).orElse (.str "apt")).asText
                   Except.ok (some (Text.lower manager))) = _
        rw [given]
        rfl
      · have other : (Text.lower system == "linux") = false := beq_eq_false_iff_ne.mpr linux
        simp only [bind, Except.bind, other, Bool.false_eq_true, if_false, linux]

theorem endpoint_ofTexts (credential : List (String × Json)) :
    if namesWindows (Text.lower system) then
      ∃ config, Endpoint.ofAsset (ofTexts base system manager) (.obj credential) =
        .ok (.winRm config)
    else if Text.lower system = "linux" then
      ∃ config, Endpoint.ofAsset (ofTexts base system manager) (.obj credential) = .ok (.ssh config)
    else
      Endpoint.ofAsset (ofTexts base system manager) (.obj credential) =
        .error (.unsupportedAsset (.system system)) := by
  have read : ((Json.str system).orElse (.str "")).asText = .ok system := by
    by_cases empty : system = ""
    · subst empty
      rfl
    · have present : (Json.str system).isPresent = true := bne_iff_ne.mpr empty
      simp only [Json.orElse, present, if_true]
      rfl
  have reached : Endpoint.ofAsset (ofTexts base system manager) (.obj credential) =
      if namesWindows (Text.lower system) then
        Endpoint.ofWindows (ofTexts base system manager) (.obj credential)
      else if Text.lower system = "linux" then
        Endpoint.ofLinux (ofTexts base system manager) (.obj credential)
      else .error (.unsupportedAsset (.system system)) := by
    have given : (ofTexts base system manager).os = .str system := rfl
    simp only [Endpoint.ofAsset, given, read, Except.map, bind, Except.bind, Json.text]
  rw [reached]
  split
  · exact ⟨_, rfl⟩
  · split
    · exact ⟨_, rfl⟩
    · rfl

end Asset

/-- An asset whose system and package manager are texts has no ecosystem exactly if its system is
refused. Otherwise there is an endpoint for it; a kind that is no ecosystem's name is refused as a
package manager, and any other names an ecosystem that fits the endpoint, unless a Linux asset has
the name of Windows for its package manager. -/
theorem ecosystem_fits_endpoint (base : Asset) (system : String) (manager : Option String)
    (credential : List (String × Json)) :
    ∃ kind?, (base.ofTexts system manager).ecosystem = .ok kind? ∧
      (kind? = none ↔ ∃ cause, Endpoint.ofAsset (base.ofTexts system manager) (.obj credential) =
        .error (.unsupportedAsset cause)) ∧
      ∀ kind, kind? = some kind →
        ∃ endpoint, Endpoint.ofAsset (base.ofTexts system manager) (.obj credential) =
          .ok endpoint ∧
          (kind ∉ Ecosystem.names →
            Ecosystem.ofJson (.str kind) = .error (.unsupportedManager kind)) ∧
          (kind ∈ Ecosystem.names → ∃ ecosystem, Ecosystem.ofJson (.str kind) = .ok ecosystem ∧
            ((base.ofTexts system manager).Misnamed ∨ endpoint.Fits ecosystem)) := by
  have reached := base.endpoint_ofTexts system manager credential
  have found := base.ecosystem_ofTexts system manager
  by_cases windows : Asset.namesWindows (Text.lower system) = true
  · rw [if_pos windows] at reached found
    obtain ⟨config, reached⟩ := reached
    refine ⟨_, found, ⟨nofun, fun ⟨_, refused⟩ => ?_⟩, ?_⟩
    · cases reached.symm.trans refused
    · rintro _ ⟨⟩
      refine ⟨_, reached, fun unknown => absurd (by decide) unknown, fun listed => ?_⟩
      obtain ⟨ecosystem, given, named⟩ := Ecosystem.ofJson_of_name listed
      have own : ecosystem = .windows := Ecosystem.name_eq_windows.mp named
      exact ⟨ecosystem, given, .inr (Endpoint.fits_of_agreement ⟨fun _ => rfl, fun _ => own⟩)⟩
  · rw [if_neg windows] at reached found
    by_cases linux : Text.lower system = "linux"
    · rw [if_pos linux] at reached found
      obtain ⟨config, reached⟩ := reached
      refine ⟨_, found, ⟨nofun, fun ⟨_, refused⟩ => ?_⟩, ?_⟩
      · cases reached.symm.trans refused
      · rintro _ ⟨⟩
        refine ⟨_, reached, Ecosystem.ofJson_of_unknown, fun listed => ?_⟩
        obtain ⟨ecosystem, given, named⟩ := Ecosystem.ofJson_of_name listed
        refine ⟨ecosystem, given, ?_⟩
        by_cases own : ecosystem = .windows
        · left
          rw [← named, Ecosystem.name_eq_windows.mpr own] at found
          have system : (base.ofTexts system manager).isLinux = .ok true :=
            congrArg Except.ok (beq_iff_eq.mpr linux)
          exact ⟨system, found⟩
        · exact .inr (Endpoint.fits_of_agreement ⟨fun same => absurd same own, nofun⟩)
    · rw [if_neg linux] at reached found
      exact ⟨none, found, ⟨fun _ => ⟨_, reached⟩, fun _ => rfl⟩, nofun⟩

/-- A Linux asset has the ecosystem that its package manager names, but no query or executor is
there for a package manager that is not known. -/
theorem unknown_manager_has_ecosystem :
    ∃ asset, Asset.ofJson (.obj [("hostname", .str "db01"), ("ip", .str "10.0.2.30"),
        ("os", .str "linux"), ("package_manager", .str "zypper")]) = .ok asset ∧
      asset.ecosystem = .ok (some "zypper") ∧
        ∀ ecosystem, Ecosystem.ofJson (.str "zypper") ≠ .ok ecosystem := by
  have zypper : Text.lower "zypper" = "zypper" := Text.lower_eq_self (by simp [Text.IsCapital])
  have linux : Text.lower "linux" = "linux" := Text.lower_eq_self (by simp [Text.IsCapital])
  have refused : Ecosystem.ofJson (.str "zypper") = .error (.unsupportedManager "zypper") := by
    rw [Ecosystem.ofJson_text, zypper]
    rfl
  obtain ⟨asset, read, runs, managed⟩ : ∃ asset, Asset.ofJson (.obj [("hostname", .str "db01"),
      ("ip", .str "10.0.2.30"), ("os", .str "linux"), ("package_manager", .str "zypper")]) =
        .ok asset ∧ asset.os = .str "linux" ∧ asset.packageManager = .str "zypper" :=
    ⟨_, rfl, rfl, rfl⟩
  have same : asset.ofTexts "linux" (some "zypper") = asset := by
    rw [Asset.ofTexts, Json.ofText?, ← runs, ← managed]
  have named : Asset.managerName (some "zypper") = "zypper" := rfl
  have found := asset.ecosystem_ofTexts "linux" (some "zypper")
  rw [same, linux, if_neg (by decide), if_pos rfl, named, zypper] at found
  exact ⟨asset, read, found, fun _ given => by cases refused.symm.trans given⟩

end FleetPatch
