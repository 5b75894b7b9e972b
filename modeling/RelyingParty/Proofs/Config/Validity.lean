import RelyingParty.Config.Reader
import RelyingParty.Proofs.Url.Authority

/-! Settings that were checked are valid but for the slash that the URL of the proxy got: behind
blanks it makes them a part of the authority. -/

namespace RelyingParty

namespace Xri

/-- There is a slash at the end. -/
theorem getLast?_withSlash (url : Text) : (withSlash url).getLast? = some '/' := by
  -- The slash either was there or was put there.
  unfold withSlash
  split
  · rename_i ends
    obtain ⟨front, rfl⟩ := List.isSuffixOf_iff_suffix.mp ends
    exact List.getLast?_concat
  · exact List.getLast?_concat

/-- What has a slash at its end gets no other one. -/
theorem withSlash_of_getLast? {url : Text} (ends : url.getLast? = some '/') :
    withSlash url = url := by
  -- A last slash is a suffix of one character.
  obtain ⟨front, rfl⟩ := List.getLast?_eq_some_iff.mp ends
  exact if_pos (List.isSuffixOf_iff_suffix.mpr (List.suffix_append _ _))

end Xri

namespace Config

variable {given config : Config} {suffix : Text}

/-- Whether a text is a URL of HTTP. -/
def IsProxy (text : Text) : Prop := ∃ url, Url.parse text = .ok url ∧ url.isHttp = true

/-- Whether blanks stand at the end of the authority of a URL. -/
def isOpenEnded (url : Text) : Bool := (Url.authority url).getLast?.any (· ≤ ' ')

/-- A suffix is accepted when it has characters and none of them is blank. -/
theorem checkSuffix_eq_ok_iff :
    checkSuffix suffix = .ok () ↔ suffix ≠ [] ∧ ∀ c ∈ suffix, Text.isBlank c = false := by
  -- The two refusals are those of the two conditions.
  unfold checkSuffix
  split
  · simp_all
  split
  · simp_all
  · simp_all

/-- Settings are accepted when each of them is, and nothing but the slash is added. -/
theorem check_eq_ok_iff :
    given.check = .ok config ↔
      IsProxy given.proxyUrl ∧ checkSuffix given.sessionKeySuffix = .ok () ∧
        given.redirectLimit ≠ 0 ∧
        config = { given with proxyUrl := Xri.withSlash given.proxyUrl } := by
  unfold check
  constructor
  · -- Every step of the check is passed, in its order.
    intro accepted
    obtain ⟨url, read, accepted⟩ := bind_eq_ok_iff.mp accepted
    cases http : url.isHttp with
    | false =>
      rw [http] at accepted
      cases accepted
    | true =>
      rw [http, Bool.not_true, if_neg Bool.false_ne_true] at accepted
      obtain ⟨_, plain, accepted⟩ := bind_eq_ok_iff.mp accepted
      by_cases none : given.redirectLimit = 0
      · rw [if_pos none] at accepted
        cases accepted
      · rw [if_neg none] at accepted
        cases accepted
        exact ⟨⟨url, mapError_eq_ok_iff.mp read, http⟩, plain, none, rfl⟩
  · -- With each part given, the check runs through.
    rintro ⟨⟨url, read, http⟩, plain, limited, rfl⟩
    refine bind_eq_ok_iff.mpr ⟨url, mapError_eq_ok_iff.mpr read, ?_⟩
    rw [http, Bool.not_true, if_neg Bool.false_ne_true, plain]
    exact if_neg limited

/-- Settings that are read from JSON were checked like any others. -/
theorem exists_check_of_parse {text : Text} (read : parse text = .ok config) :
    ∃ given : Config, given.check = .ok config := by
  -- The check is the last step of the reading.
  obtain ⟨⟨given, _⟩, _, checked⟩ := bind_eq_ok_iff.mp read
  exact ⟨given, mapError_eq_ok_iff.mp checked⟩

/-- An authority is not left open when its last character is no blank. -/
theorem isOpenEnded_eq_false_iff {url : Text} :
    isOpenEnded url = false ↔ ∀ c ∈ (Url.authority url).getLast?, ' ' < c := by
  -- An empty authority has no last character that could be a blank.
  unfold isOpenEnded
  cases (Url.authority url).getLast? with
  | none => simp
  | some c => simp

/-- The URL of a proxy is one with its slash, too, unless its authority ends in blanks then. -/
theorem isProxy_withSlash_iff {url : Text} (read : IsProxy url) :
    IsProxy (Xri.withSlash url) ↔ isOpenEnded (Xri.withSlash url) = false := by
  rw [isOpenEnded_eq_false_iff]
  unfold Xri.withSlash
  split
  · -- Nothing is added, and what was read has no blank there.
    exact ⟨fun read => Url.lt_of_exists_parse read, fun _ => read⟩
  · exact Url.exists_parse_slash_iff read

/-- Accepted settings are accepted again, as they are, exactly when the URL of the proxy still is
one. -/
theorem check_self_iff (accepted : given.check = .ok config) :
    config.check = .ok config ↔ IsProxy config.proxyUrl := by
  -- The first check has settled all but the URL, which may be another one now.
  obtain ⟨_, plain, limited, rfl⟩ := check_eq_ok_iff.mp accepted
  rw [check_eq_ok_iff]
  constructor
  · exact And.left
  · intro read
    refine ⟨read, plain, limited, ?_⟩
    rw [Xri.withSlash_of_getLast? (Xri.getLast?_withSlash _)]

/-- Accepted settings, given as they are or in JSON, have a slash at the end of the URL of the
proxy, a suffix without blanks that is not empty, and a limit that is not zero. They are valid, and
accepted again as they are, unless the slash has left blanks at the end of the authority of that
URL; then it is no URL of HTTP any more. -/
theorem check_again_iff
    (accepted : (∃ given : Config, given.check = .ok config) ∨
      ∃ text, Config.parse text = .ok config) :
    config.proxyUrl.getLast? = some '/' ∧ config.sessionKeySuffix ≠ [] ∧
      (∀ c ∈ config.sessionKeySuffix, Text.isBlank c = false) ∧ 1 ≤ config.redirectLimit ∧
      (IsProxy config.proxyUrl ↔ isOpenEnded config.proxyUrl = false) ∧
      (config.check = .ok config ↔ isOpenEnded config.proxyUrl = false) := by
  obtain ⟨given, checked⟩ : ∃ given : Config, given.check = .ok config := by
    rcases accepted with checked | ⟨text, read⟩
    · exact checked
    · exact exists_check_of_parse read
  -- What is left to ask is whether the URL still is one, and a check on it asks nothing else.
  have again := check_self_iff checked
  obtain ⟨read, plain, limited, rfl⟩ := check_eq_ok_iff.mp checked
  obtain ⟨nonempty, noBlank⟩ := checkSuffix_eq_ok_iff.mp plain
  have still := isProxy_withSlash_iff read
  exact ⟨Xri.getLast?_withSlash _, nonempty, noBlank, Nat.one_le_iff_ne_zero.mpr limited, still,
    again.trans still⟩

/-- The settings for a proxy. -/
def standardAt (proxyUrl : Text) : Config := { standard with proxyUrl }

/-- A blank behind the host is passed over until a slash stands behind it: the settings are
accepted, and refused as they are then. -/
theorem check_again_blank :
    (standardAt "http://h ").check = .ok (standardAt "http://h /") ∧
      isOpenEnded "http://h /" = true ∧
      (standardAt "http://h /").check ≠ .ok (standardAt "http://h /") := by
  -- The witness settles the first check, and the second goes by the end of the authority.
  have accepted : (standardAt "http://h ").check = .ok (standardAt "http://h /") := by
    decide +kernel
  have ended : isOpenEnded "http://h /" = true := by decide +kernel
  obtain ⟨_, _, _, _, _, again⟩ := check_again_iff (.inl ⟨_, accepted⟩)
  refine ⟨accepted, ended, fun kept => ?_⟩
  have other := again.mp kept
  rw [standardAt, ended] at other
  cases other

end Config

end RelyingParty
