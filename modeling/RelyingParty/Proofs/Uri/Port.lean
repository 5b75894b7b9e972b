import RelyingParty.Proofs.Text.Casing
import RelyingParty.Proofs.Text.Number
import RelyingParty.Uri

/-! Where a port begins behind a host, with brackets around colons or without. -/

namespace RelyingParty.Uri

/-- Whether a host is in brackets, with no colon behind them. -/
def IsBracketed (host : Text) : Prop :=
  ∃ inside extra, host = '[' :: inside ++ ']' :: extra ∧ ']' ∉ inside ∧ ':' ∉ extra

/-- A port has neither a colon nor a bracket. -/
theorem not_mem_of_portNumber? {port : Text} {number : Option Nat}
    (read : portNumber? (some port) = some number) : ':' ∉ port ∧ ']' ∉ port := by
  cases port with
  | nil => simp
  | cons c rest =>
    obtain ⟨n, found, _⟩ := Option.map_eq_some_iff.mp read
    -- Neither is among the characters that a number may have.
    have digits := Text.digit_or_plus_of_natBelow? found
    have colon : ¬(':' = '+' ∨ (Text.digitValue? 10 ':').isSome = true) := by decide
    have bracket : ¬(']' = '+' ∨ (Text.digitValue? 10 ']').isSome = true) := by decide
    exact ⟨fun inside => colon (digits _ inside), fun inside => bracket (digits _ inside)⟩

/-- A text cut at its last colon, whatever brackets it has. -/
def cutLastColon (text : Text) : Text × Option Text :=
  match Text.splitLast ':' text with
  | some (host, port) => (host, some port)
  | none => (text, none)

/-- The last colon is the one with no other behind it. -/
theorem cutLastColon_eq_iff {text host : Text} {port : Option Text} :
    cutLastColon text = (host, port) ↔
      text = host ++ Text.marked ':' port ∧ ':' ∉ port.getD host := by
  unfold cutLastColon
  constructor
  · -- Without a colon the host is all of the text.
    intro cut
    cases split : Text.splitLast ':' text with
    | none =>
      simp only [split] at cut
      cases cut
      exact ⟨by simp [Text.marked], Text.splitLast_eq_none_iff.mp split⟩
    | some parts =>
      simp only [split] at cut
      cases cut
      exact Text.splitLast_eq_some_iff.mp split
  · rintro ⟨rfl, absent⟩
    -- Conversely the last colon is found where the port begins, as it has none itself.
    cases port with
    | none =>
      have split : Text.splitLast ':' host = none := Text.splitLast_eq_none_iff.mpr absent
      simp [Text.marked, split]
    | some port =>
      have split : Text.splitLast ':' (host ++ ':' :: port) = some (host, port) :=
        Text.splitLast_append absent host
      simp [Text.marked, split]

/-- What stands in front of a text without a colon stays in front of the cut. -/
theorem cutLastColon_append {front : Text} (colon : ':' ∉ front) (text : Text) :
    cutLastColon (front ++ text) = (front ++ (cutLastColon text).1, (cutLastColon text).2) := by
  rw [cutLastColon, cutLastColon, Text.splitLast_append_of_notMem colon]
  cases Text.splitLast ':' text with
  | none => rfl
  | some parts => rfl

/-- Without an opening bracket at its start the last colon of a text separates the port. -/
theorem splitPort?_of_no_bracket {text : Text} (other : text.head? ≠ some '[') :
    splitPort? text = some (cutLastColon text) := by
  -- Only an opening bracket in front leads to the other case.
  unfold splitPort?
  split
  · exact absurd rfl other
  · unfold cutLastColon
    cases Text.splitLast ':' text with
    | none => rfl
    | some parts => rfl

/-- A host in brackets ends at the first colon behind them, and a port is what follows it. -/
theorem splitPort?_bracket_eq_some_iff {rest host : Text} {port : Option Text} :
    splitPort? ('[' :: rest) = some (host, port) ↔
      '[' :: rest = host ++ Text.marked ':' port ∧ IsBracketed host := by
  constructor
  · intro cut
    simp only [splitPort?] at cut
    obtain ⟨⟨inside, after⟩, closed, parts⟩ := Option.map_eq_some_iff.mp cut
    obtain ⟨rfl, bracket⟩ := Text.splitFirst_eq_some_iff.mp closed
    -- Anything between the closing bracket and the colon belongs to the host.
    cases split : Text.splitFirst ':' after with
    | none =>
      simp only [split] at parts
      cases parts
      have colon := Text.splitFirst_eq_none_iff.mp split
      exact ⟨by simp [Text.marked], inside, after, by simp, bracket, colon⟩
    | some tail =>
      simp only [split] at parts
      cases parts
      obtain ⟨rfl, colon⟩ := Text.splitFirst_eq_some_iff.mp split
      exact ⟨by simp [Text.marked], inside, tail.1, by simp, bracket, colon⟩
  · -- The closing bracket of the host is the first one, and the colon the first behind it.
    rintro ⟨whole, inside, extra, rfl, bracket, colon⟩
    have same : rest = inside ++ ']' :: (extra ++ Text.marked ':' port) := by simpa using whole
    have closed := Text.splitFirst_eq_some_iff.mpr ⟨same, bracket⟩
    have ends : Text.splitFirst ':' (extra ++ Text.marked ':' port) =
        port.map fun port => (extra, port) := by
      cases port with
      | none => simpa [Text.marked] using Text.splitFirst_eq_none_iff.mpr colon
      | some port => exact Text.splitFirst_eq_some_iff.mpr ⟨rfl, colon⟩
    simp only [splitPort?, closed, Option.map_some, ends]
    cases port with
    | none => simp [Text.marked]
    | some port => simp

/-- The port begins at the first colon behind brackets, and at the last colon without any. -/
theorem splitPort?_eq_some_iff {text host : Text} {port : Option Text} :
    splitPort? text = some (host, port) ↔
      text = host ++ Text.marked ':' port ∧
        if text.head? = some '[' then IsBracketed host else ':' ∉ port.getD host := by
  -- The two cases are told by the first character.
  by_cases bracket : text.head? = some '['
  · obtain ⟨rest, rfl⟩ := List.head?_eq_some_iff.mp bracket
    exact splitPort?_bracket_eq_some_iff
  · rw [splitPort?_of_no_bracket bracket, if_neg bracket, Option.some.injEq, cutLastColon_eq_iff]

/-- A host in brackets ends at the last colon too, when a port is read behind both of them. -/
theorem splitPort?_bracket_eq {rest name : Text} {port : Option Text} {number number' : Option Nat}
    (cut : splitPort? ('[' :: rest) = some (name, port)) (valid : portNumber? port = some number)
    (valid' : portNumber? (cutLastColon ('[' :: rest)).2 = some number') :
    cutLastColon ('[' :: rest) = (name, port) := by
  -- A colon behind the host would be part of a port, which has none.
  obtain ⟨whole, inside, extra, named, _, colon⟩ := splitPort?_bracket_eq_some_iff.mp cut
  refine cutLastColon_eq_iff.mpr ⟨whole, ?_⟩
  cases port with
  | some port => exact (not_mem_of_portNumber? valid).1
  | none =>
    have same : name = '[' :: rest := by simpa [Text.marked] using whole.symm
    rw [Option.getD_none, same]
    obtain ⟨name', port', cut'⟩ : ∃ name' port', cutLastColon ('[' :: rest) = (name', port') :=
      ⟨_, _, rfl⟩
    rw [cut'] at valid'
    obtain ⟨whole', absent⟩ := cutLastColon_eq_iff.mp cut'
    cases port' with
    | none =>
      rw [whole']
      simpa [Text.marked] using absent
    | some written =>
      -- A colon inside the brackets would put their end into the port.
      have separated : '[' :: inside ++ ']' :: extra = name' ++ ':' :: written := by
        rw [← named, same, whole']
        rfl
      rcases List.append_eq_append_iff.mp separated with ⟨a, _, parts⟩ | ⟨a, _, parts⟩
      · have inside : ':' ∈ ']' :: extra := by simp [parts]
        exact absurd inside (List.not_mem_cons_of_ne_of_not_mem (by decide) colon)
      · have inside : ']' ∈ ':' :: written := by simp [parts]
        have outside := (not_mem_of_portNumber? valid').2
        exact absurd inside (List.not_mem_cons_of_ne_of_not_mem (by decide) outside)

/-- A host is found when its text is cut off and the number of its port is read. -/
theorem hostPort?_eq_some_iff {text host : Text} {number : Option Nat} :
    hostPort? text = some (host, number) ↔
      ∃ port, splitPort? text = some (host, port) ∧ portNumber? port = some number := by
  -- The text is cut first, and the number is read of what stands behind.
  simp only [hostPort?, Option.bind_eq_bind, Option.bind_eq_some_iff, Option.pure_def,
    Option.some.injEq, Prod.mk.injEq]
  constructor
  · rintro ⟨⟨_, port⟩, cut, _, valid, rfl, rfl⟩
    exact ⟨port, cut, valid⟩
  · rintro ⟨port, cut, valid⟩
    exact ⟨(host, port), cut, number, valid, rfl, rfl⟩

/-- What stands in front of a host is part of the host, when neither a bracket nor a colon is in
it. -/
theorem hostPort?_append (front : Text) {text host name : Text} {port number : Option Nat}
    (bracket : '[' ∉ front) (colon : ':' ∉ front)
    (whole : hostPort? (front ++ text) = some (host, port))
    (part : hostPort? text = some (name, number)) : host = front ++ name := by
  cases front with
  | nil =>
    rw [List.nil_append, part] at whole
    cases whole
    rfl
  | cons c front =>
    obtain ⟨written, cut, valid⟩ := hostPort?_eq_some_iff.mp whole
    obtain ⟨written', cut', valid'⟩ := hostPort?_eq_some_iff.mp part
    -- With something in front no bracket opens the whole, so its last colon counts.
    have outside : (c :: front ++ text).head? ≠ some '[' := fun first => by
      have same : c = '[' := Option.some.inj first
      exact bracket (same ▸ .head _)
    rw [splitPort?_of_no_bracket outside, cutLastColon_append colon] at cut
    cases cut
    -- The text itself may be in brackets, and then its last colon is the one behind them.
    have last : cutLastColon text = (name, written') := by
      by_cases opening : text.head? = some '['
      · obtain ⟨rest, rfl⟩ := List.head?_eq_some_iff.mp opening
        exact splitPort?_bracket_eq cut' valid' valid
      · rw [splitPort?_of_no_bracket opening] at cut'
        exact Option.some.inj cut'
    rw [last]

/-- A host that begins with a bracket is in brackets. -/
theorem isBracketed_of_splitPort? {text host : Text} {port : Option Text}
    (cut : splitPort? text = some (host, port)) (bracket : host.head? = some '[') :
    IsBracketed host := by
  obtain ⟨rfl, parts⟩ := splitPort?_eq_some_iff.mp cut
  -- The host is the start of the text, so the text begins with the bracket too.
  have first : (host ++ Text.marked ':' port).head? = some '[' := by simp [bracket]
  rwa [if_pos first] at parts

/-- A port behind a host is cut off again, unless its colon is missed in a host that has its own. -/
theorem splitPort?_marked_iff {host : Text} {port : Option Text}
    (known : host.head? = some '[' → IsBracketed host) :
    splitPort? (host ++ Text.marked ':' port) = some (host, port) ↔
      host.head? = some '[' ∨ ':' ∉ port.getD host := by
  -- The port behind does not change the first character of the host.
  have first : (host ++ Text.marked ':' port).head? = some '[' ↔ host.head? = some '[' := by
    cases host with
    | nil => cases port <;> simp [Text.marked]
    | cons c host => rfl
  rw [splitPort?_eq_some_iff, and_iff_right rfl]
  by_cases bracket : host.head? = some '['
  · rw [if_pos (first.mpr bracket)]
    exact iff_of_true (known bracket) (.inl bracket)
  · rw [if_neg (mt first.mp bracket), or_iff_right bracket]

/-- The number of a port is read back from its text. -/
theorem portNumber?_ofNat {port : Option Nat} (small : ∀ n ∈ port, n < 65536) :
    portNumber? (port.map Text.ofNat) = some port := by
  -- The text of a number is not empty, so that it is read as one.
  cases port with
  | none => rfl
  | some n =>
    have nonempty : Text.ofNat n ≠ [] := Nat.toDigits_ne_nil
    have read := Text.natBelow?_ofNat (small n rfl)
    rw [Option.map_some, portNumber?, read]
    · rfl
    · exact nonempty

/-- A port is found behind a host that had none. -/
theorem hostPort?_append_port {host : Text} (alone : splitPort? host = some (host, none)) {n : Nat}
    (small : n < 65536) : hostPort? (host ++ ':' :: Text.ofNat n) = some (host, some n) := by
  -- Digits have no colon, so the one in front of them is the last.
  have colon : ':' ∉ Text.ofNat n := Text.not_mem_ofNat (by decide) n
  have cut : splitPort? (host ++ Text.marked ':' (some (Text.ofNat n))) =
      some (host, some (Text.ofNat n)) :=
    (splitPort?_marked_iff (isBracketed_of_splitPort? alone)).mpr (.inr colon)
  have read : portNumber? ((some n).map Text.ofNat) = some (some n) :=
    portNumber?_ofNat (by simpa using small)
  exact hostPort?_eq_some_iff.mpr ⟨_, cut, read⟩

/-- A port is cut off in lower case where it is in the text. -/
theorem splitPort?_asciiLower (text : Text) :
    splitPort? (Text.asciiLower text) =
      (splitPort? text).map fun parts =>
        (Text.asciiLower parts.1, parts.2.map Text.asciiLower) := by
  -- Colons and brackets are no letters, so both texts are cut at the same places.
  by_cases bracket : text.head? = some '['
  · obtain ⟨rest, rfl⟩ := List.head?_eq_some_iff.mp bracket
    show splitPort? ('[' :: Text.asciiLower rest) = _
    simp only [splitPort?, Text.splitFirst_asciiLower (by decide : ']'.isAlpha = false)]
    cases Text.splitFirst ']' rest with
    | none => rfl
    | some parts =>
      obtain ⟨inside, after⟩ := parts
      simp only [Option.map_some, Text.splitFirst_asciiLower (by decide : ':'.isAlpha = false)]
      cases Text.splitFirst ':' after with
      | none => simp [Text.asciiLower]
      | some tail => simp [Text.asciiLower]
  · -- Without a bracket the last colon cuts either text.
    have lower := mt (Text.head?_asciiLower_eq_some_iff (by decide)).mp bracket
    rw [splitPort?_of_no_bracket bracket, splitPort?_of_no_bracket lower, cutLastColon,
      cutLastColon, Text.splitLast_asciiLower (by decide)]
    cases Text.splitLast ':' text with
    | none => rfl
    | some parts => rfl

/-- The number of a port does not depend on case. -/
theorem portNumber?_asciiLower (port : Option Text) :
    portNumber? (port.map Text.asciiLower) = portNumber? port := by
  -- A port of no characters is none in either case.
  cases port with
  | none => rfl
  | some text =>
    cases text with
    | nil => rfl
    | cons c rest =>
      exact congrArg (Option.map some) (Text.natBelow?_asciiLower 65536 (c :: rest))

/-- Host and port are found in lower case where they are in the text. -/
theorem hostPort?_asciiLower (text : Text) :
    hostPort? (Text.asciiLower text) =
      (hostPort? text).map fun parts => (Text.asciiLower parts.1, parts.2) := by
  -- The text is cut at the same place, and the port has the same number.
  simp only [hostPort?, splitPort?_asciiLower]
  cases splitPort? text with
  | none => rfl
  | some parts =>
    obtain ⟨host, port⟩ := parts
    simp only [Option.map_some, Option.bind_eq_bind, Option.bind_some, portNumber?_asciiLower]
    cases portNumber? port with
    | none => rfl
    | some number => rfl

end RelyingParty.Uri
