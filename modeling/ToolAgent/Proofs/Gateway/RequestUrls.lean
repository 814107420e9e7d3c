import Mathlib.Data.List.DropRight
import ToolAgent.Gateway.Config

/-!
# What a request's URL says

The URL of a request is made of a host and three ids. If the ids have no slash in them, they can be
told from the end of the URL, whatever the host is; and what is in front of them then gives the host
but for the slashes at its end (`GatewayConfig.completionsUrl_eq_iff`).
-/

namespace ToolAgent

/-! ## Slashes -/

namespace Text

/-- A text is what is left of it, and behind that the characters that were dropped. -/
theorem exists_eq_dropEndWhile_append (c : Char) (cs : List Char) :
    ∃ n, cs = dropEndWhile (· == c) cs ++ List.replicate n c := by
  have hdropped : ∀ d ∈ cs.rtakeWhile (· == c), d = c := by
    intro d hd
    exact beq_iff_eq.mp (List.mem_rtakeWhile_imp (p := (· == c)) hd)
  have hreplicate := List.eq_replicate_iff.mpr ⟨rfl, hdropped⟩
  refine ⟨(cs.rtakeWhile (· == c)).length, ?_⟩
  calc
    cs = cs.rdropWhile (· == c) ++ cs.rtakeWhile (· == c) :=
      List.rdropWhile_append_rtakeWhile.symm
    _ = dropEndWhile (· == c) cs ++ List.replicate (cs.rtakeWhile (· == c)).length c :=
      congrArg (cs.rdropWhile (· == c) ++ ·) hreplicate

theorem dropEndWhile_append_replicate (c : Char) (cs : List Char) (n : Nat) :
    dropEndWhile (· == c) (cs ++ List.replicate n c) = dropEndWhile (· == c) cs := by
  have hall : ∀ d ∈ List.replicate n c, (d == c) = true :=
    fun d hd => beq_iff_eq.mpr (List.eq_of_mem_replicate hd)
  rw [dropEndWhile, List.reverse_append, List.reverse_replicate, List.dropWhile_append_of_pos hall,
    dropEndWhile]

/-- What is dropped from the end is all that may differ. -/
theorem dropEndWhile_eq_iff {c : Char} {cs ds : List Char} :
    dropEndWhile (· == c) cs = dropEndWhile (· == c) ds ↔
      ∃ front m n, cs = front ++ List.replicate m c ∧ ds = front ++ List.replicate n c := by
  constructor
  · intro h
    obtain ⟨m, hm⟩ := exists_eq_dropEndWhile_append c cs
    obtain ⟨n, hn⟩ := exists_eq_dropEndWhile_append c ds
    exact ⟨_, m, n, hm, h ▸ hn⟩
  · rintro ⟨front, m, n, rfl, rfl⟩
    rw [dropEndWhile_append_replicate, dropEndWhile_append_replicate]

/-- The last part of a path can be told from what is in front of it. -/
theorem append_slash_inj {front front' part part' : List Char} (h : '/' ∉ part)
    (h' : '/' ∉ part') :
    front ++ '/' :: part = front' ++ '/' :: part' ↔ front = front' ∧ part = part' := by
  have hnil {more left right : List Char} (hleft : '/' ∉ left)
      (heq : '/' :: left = more ++ '/' :: right) : more = [] := by
    cases more with
    | nil => rfl
    | cons c more =>
      obtain rfl := (List.cons.inj heq).2
      exact absurd (List.mem_append_right more List.mem_cons_self) hleft
  constructor
  · intro heq
    obtain ⟨more, rfl, hmore⟩ | ⟨more, rfl, hmore⟩ := List.append_eq_append_iff.mp heq
    · obtain rfl := hnil h hmore
      exact ⟨(List.append_nil front).symm, (List.cons.inj hmore).2⟩
    · obtain rfl := hnil h' hmore
      exact ⟨List.append_nil front', (List.cons.inj hmore).2.symm⟩
  · rintro ⟨rfl, rfl⟩
    rfl

end Text

namespace GatewayConfig

/-- The ids have no slash in them. -/
structure HasPlainIds (config : GatewayConfig) : Prop where
  workspaceId : '/' ∉ config.workspaceId.toList
  environmentId : '/' ∉ config.environmentId.toList
  resourceId : '/' ∉ config.resourceId.toList

instance : DecidablePred HasPlainIds := fun config =>
  decidable_of_iff ('/' ∉ config.workspaceId.toList ∧ '/' ∉ config.environmentId.toList ∧
      '/' ∉ config.resourceId.toList)
    ⟨fun ⟨hw, he, hr⟩ => ⟨hw, he, hr⟩, fun ⟨hw, he, hr⟩ => ⟨hw, he, hr⟩⟩

def slashes (n : Nat) : String := String.ofList (List.replicate n '/')

/-- The hosts are the same but for slashes at their ends. -/
def SameHost (host host' : String) : Prop :=
  ∃ front m n, host = front ++ slashes m ∧ host' = front ++ slashes n

theorem toList_append_slashes (front : String) (n : Nat) :
    (front ++ slashes n).toList = front.toList ++ List.replicate n '/' := by
  rw [String.toList_append, slashes, String.toList_ofList]

theorem trimmedHost_eq_iff {host host' : String} :
    trimmedHost host = trimmedHost host' ↔ SameHost host host' := by
  rw [trimmedHost, trimmedHost, String.ofList_inj, Text.dropEndWhile_eq_iff]
  constructor
  · rintro ⟨front, m, n, hm, hn⟩
    refine ⟨String.ofList front, m, n, ?_, ?_⟩ <;>
      rw [← String.toList_inj, toList_append_slashes, String.toList_ofList] <;> assumption
  · rintro ⟨front, m, n, rfl, rfl⟩
    exact ⟨front.toList, m, n, toList_append_slashes front m, toList_append_slashes front n⟩

theorem sameHost_append_slashes (host : String) (n : Nat) : SameHost (host ++ slashes n) host :=
  ⟨host, n, 0, rfl, by simp [slashes]⟩

/-- The host and the ids, divided by slashes, and what all URLs have behind them. -/
theorem toList_completionsUrl (config : GatewayConfig) :
    config.completionsUrl.toList =
      ((((trimmedHost config.host).toList ++ "/v1/completion".toList) ++
        '/' :: config.workspaceId.toList) ++ '/' :: config.environmentId.toList) ++
        '/' :: config.resourceId.toList ++ "/chat/completions".toList := by
  simp [completionsUrl, baseUrl, String.toList_append]

/-- What the URL says of ids without slashes and of the host. -/
theorem completionsUrl_eq_iff_of_plain {config other : GatewayConfig} (h : config.HasPlainIds)
    (hother : other.HasPlainIds) :
    config.completionsUrl = other.completionsUrl ↔
      config.workspaceId = other.workspaceId ∧ config.environmentId = other.environmentId ∧
        config.resourceId = other.resourceId ∧ SameHost config.host other.host := by
  rw [← String.toList_inj, toList_completionsUrl, toList_completionsUrl, List.append_left_inj,
    Text.append_slash_inj h.resourceId hother.resourceId,
    Text.append_slash_inj h.environmentId hother.environmentId,
    Text.append_slash_inj h.workspaceId hother.workspaceId, List.append_left_inj,
    String.toList_inj, String.toList_inj, String.toList_inj, String.toList_inj,
    trimmedHost_eq_iff]
  constructor
  · rintro ⟨⟨⟨hhost, hworkspace⟩, henvironment⟩, hresource⟩
    exact ⟨hworkspace, henvironment, hresource, hhost⟩
  · rintro ⟨hworkspace, henvironment, hresource, hhost⟩
    exact ⟨⟨⟨hhost, hworkspace⟩, henvironment⟩, hresource⟩

theorem completionsUrl_congr_host (config : GatewayConfig) {host : String}
    (h : SameHost host config.host) :
    { config with host := host }.completionsUrl = config.completionsUrl := by
  rw [completionsUrl, completionsUrl, baseUrl, baseUrl, trimmedHost_eq_iff.mpr h]

/-- **A URL says where a request goes.** Of two configurations whose ids have no slash in them the
URLs are the same exactly if the ids are, each of them, and the hosts are the same but for slashes
at their ends, whatever else there is in the hosts. So a host may have any number of slashes there.
The URLs are meant as they are written, before a client takes them apart. -/
theorem completionsUrl_eq_iff {config other : GatewayConfig} (h : config.HasPlainIds)
    (hother : other.HasPlainIds) :
    (config.completionsUrl = other.completionsUrl ↔
      config.workspaceId = other.workspaceId ∧ config.environmentId = other.environmentId ∧
        config.resourceId = other.resourceId ∧ SameHost config.host other.host) ∧
    ∀ n, { config with host := config.host ++ slashes n }.completionsUrl =
      config.completionsUrl := by
  constructor
  · exact completionsUrl_eq_iff_of_plain h hother
  · intro n
    exact config.completionsUrl_congr_host (sameHost_append_slashes config.host n)

/-- A host that looks like the URL of another resource, with slashes at its end. -/
theorem completionsUrl_eq_iff_of_host_like_url :
    let config : GatewayConfig :=
      .forResource "http://h/v1/completion/ws/env/openai/" "ws" "env" "openai"
    let slashed : GatewayConfig := { config with host := config.host ++ slashes 2 }
    let other : GatewayConfig := .forResource "http://h" "ws" "env" "openai"
    config.HasPlainIds ∧ slashed.HasPlainIds ∧ other.HasPlainIds ∧
      slashed.completionsUrl = config.completionsUrl ∧
      config.completionsUrl ≠ other.completionsUrl := by
  intro config slashed other
  have hconfig : config.HasPlainIds := by decide
  have hother : other.HasPlainIds := by decide
  obtain ⟨hiff, hslashes⟩ := completionsUrl_eq_iff hconfig hother
  refine ⟨hconfig, by decide, hother, hslashes 2, fun hurl => ?_⟩
  obtain ⟨-, -, -, hhost⟩ := hiff.mp hurl
  exact absurd (trimmedHost_eq_iff.mpr hhost) (by decide)

end GatewayConfig

end ToolAgent
