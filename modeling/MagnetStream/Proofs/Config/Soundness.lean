import MagnetStream.Proofs.Config.Setting
import MagnetStream.Proofs.Url.Origin

/-!
# What accepted settings are like

Every reader of the section of the service refuses what the service could not use
(`sound_of_readSettings`), and what the section does not say has a default that every reader would
accept. Nothing of the kind is asked of the section of the cache.
-/

namespace MagnetStream.Config

/-- The settings of a service are as its readers want them. -/
structure Service.Sound (service : Service) : Prop where
  baseUrl : Url.validateBase service.baseUrl = .ok service.baseUrl
  timeout : service.timeout.atMostZero = false
  cacheAge : 0 ≤ service.cacheAge
  extraHeaders : ∃ headers, Http.readHeaders service.extraHeaders = .ok headers
  pollBudget : 1 ≤ service.pollBudget
  pollInterval : service.pollInterval.atMostZero = false

theorem sound_defaultService : defaultService.Sound where
  baseUrl := by decide +kernel
  timeout := by decide +kernel
  cacheAge := by decide
  extraHeaders := ⟨[], rfl⟩
  pollBudget := by decide
  pollInterval := by decide +kernel

section Readers

variable {value : Json}

theorem of_require {α : Type} {condition : α → Bool} {reason : String} {checked : Checked α}
    {result : α} (h : checked.require condition reason = .valid result) :
    condition result = true :=
  (Checked.require_eq_valid.mp h).2

theorem validateBase_of_readBaseUrl {url : String} (h : readBaseUrl value = .valid url) :
    Url.validateBase url = .ok url := by
  obtain ⟨text, _, hurl⟩ := Checked.bind_eq_valid.mp h
  split at hurl
  · next normal hnormal =>
    cases hurl
    exact Url.validateBase_again hnormal
  · cases hurl

theorem atMostZero_of_readSeconds {seconds : Binary64} (h : readSeconds value = .valid seconds) :
    seconds.atMostZero = false := by
  simpa using of_require h

theorem nonneg_of_readCacheAge {age : Int} (h : readCacheAge value = .valid age) : 0 ≤ age := by
  simpa using of_require h

theorem pos_of_readPollBudget {budget : Int} (h : readPollBudget value = .valid budget) :
    1 ≤ budget := by
  simpa using of_require h

theorem readHeaders_of_readExtraHeaders {texts : List String}
    (h : readExtraHeaders value = .valid texts) :
    ∃ headers, Http.readHeaders texts = .ok headers := by
  obtain ⟨given, _, htexts⟩ := Checked.bind_eq_valid.mp h
  split at htexts
  · next headers hheaders =>
    cases htexts
    exact ⟨headers, hheaders⟩
  · cases htexts

/-- What holds of the default and of all that a reader accepts holds of a member. -/
theorem of_member {α : Type} (holds : α → Prop) {members : List (String × Json)} {name : String}
    {default result : α} {read : Json → Checked α}
    (h : member members name default read = .valid result) (hdefault : holds default)
    (hread : ∀ {value result}, read value = .valid result → holds result) : holds result := by
  unfold member at h
  split at h
  · exact hread (Checked.under_eq_valid.mp h)
  · cases h
    exact hdefault

end Readers

theorem sound_of_readService {members : List (String × Json)} {service : Service}
    (h : readService members = .valid service) : service.Sound := by
  have hparts := parts_of_readService h
  have husual := sound_defaultService
  exact {
    baseUrl := of_member (fun url => Url.validateBase url = .ok url) hparts.baseUrl
      husual.baseUrl validateBase_of_readBaseUrl
    timeout := of_member (·.atMostZero = false) hparts.timeout
      husual.timeout atMostZero_of_readSeconds
    cacheAge := of_member (0 ≤ ·) hparts.cacheAge husual.cacheAge nonneg_of_readCacheAge
    extraHeaders := of_member (fun texts => ∃ headers, Http.readHeaders texts = .ok headers)
      hparts.extraHeaders husual.extraHeaders readHeaders_of_readExtraHeaders
    pollBudget := of_member (1 ≤ ·) hparts.pollBudget husual.pollBudget pos_of_readPollBudget
    pollInterval := of_member (·.atMostZero = false) hparts.pollInterval
      husual.pollInterval atMostZero_of_readSeconds }

/-- Accepted settings have a sound service, whatever they were read from. -/
theorem sound_of_readSettings {homes : Homes} {value : Json} {settings : Settings}
    (h : readSettings homes value = .valid settings) : settings.service.Sound := by
  cases value with
  | obj layer =>
    refine of_member Service.Sound (parts_of_readSettings h).service sound_defaultService
      fun {value _} hread => ?_
    cases value with
    | obj members => exact sound_of_readService hread
    | _ => cases hread
  | _ => cases h

end MagnetStream.Config
