import RelyingParty.Proofs.Form
import RelyingParty.Proofs.Xri.NormalForm
import RelyingParty.Xri.Resolver

/-! The arguments that are appended to a URL reach its query, and so do those of a resolver. -/

namespace RelyingParty.Xri

open Form (appendArguments argumentsOf dropQuestionMarks)

/-- Without its scheme an XRI has no other characters. -/
theorem mem_of_mem_withoutScheme {xri : Text} {c : Char} (inside : c ∈ withoutScheme xri) :
    c ∈ xri := by
  unfold withoutScheme at inside
  cases dropped : Text.dropStart? scheme xri with
  | none => simpa [dropped] using inside
  | some rest =>
    -- The scheme stands in front of what is left.
    rw [Text.dropStart?_eq_some_iff.mp dropped]
    exact List.mem_append_right scheme (by simpa [dropped] using inside)

/-- The URL of a query carries the arguments of the resolver as its last ones, when no number sign
ends its query before them. -/
theorem arguments_suffix_queryUrl {resolver : Resolver} {xri : Text}
    (proxied : '#' ∉ resolver.proxyUrl)
    (inside : ∀ front back, xri = front ++ '#' :: back → LeavesOpen front)
    (serviceType : Option Text) :
    Resolver.arguments serviceType <:+ argumentsOf (resolver.queryUrl xri serviceType) := by
  -- The number signs of the XRI are in triplets, so that the URL has no fragment.
  have whole : '#' ∉ resolver.proxyUrl ++ withoutScheme (uriNormal xri) := by
    have normal : '#' ∉ uriNormal xri := not_mem_uriNormal (by decide) (by decide) inside
    exact List.not_mem_append proxied (mt mem_of_mem_withoutScheme normal)
  rw [Resolver.queryUrl, Form.argumentsOf_appendArguments fun fragment => absurd fragment whole]
  exact List.suffix_append _ _

/-- Arguments that are appended to a URL without a fragment are the last ones of its query, behind
those that the URL has without question marks at its end. So the arguments of a resolver are the
last ones of the URL that is asked, when its base has no fragment and each number sign of the XRI
stands inside of parentheses. -/
theorem arguments_reach_query :
    (∀ (url : Text) (pairs : List (Text × Text)), ('#' ∈ url → pairs = []) →
      argumentsOf (appendArguments url pairs) =
          argumentsOf (if pairs = [] then url else dropQuestionMarks url) ++ pairs ∧
        (url.getLast? ≠ some '?' →
          argumentsOf (appendArguments url pairs) = argumentsOf url ++ pairs)) ∧
    ∀ (resolver : Resolver) (xri : Text), '#' ∉ resolver.proxyUrl →
      (∀ front back, xri = front ++ '#' :: back → LeavesOpen front) →
        ([("_xrd_r", "application/xrds+xml;sep=false")] : List (Text × Text)) <:+
          argumentsOf (resolver.queryUrl xri none) ∧
        ∀ serviceType : Text,
          ([("_xrd_r", "application/xrds+xml"), ("_xrd_t", serviceType)] : List (Text × Text)) <:+
            argumentsOf (resolver.queryUrl xri (some serviceType)) := by
  -- Without arguments the URL stays, and otherwise they come behind its query.
  refine ⟨fun url pairs whole => ?_, fun resolver xri proxied inside => ?_⟩
  · have carried := Form.argumentsOf_appendArguments whole
    refine ⟨carried, fun ends => ?_⟩
    rw [carried, Form.dropQuestionMarks_eq_self ends, ite_self]
  · exact ⟨arguments_suffix_queryUrl proxied inside none,
      fun serviceType => arguments_suffix_queryUrl proxied inside (some serviceType)⟩

/-- An XRI with a query of its own and a number sign inside of parentheses is asked for with both
arguments, of which the service type has a query and a fragment. -/
theorem arguments_reach_query_nested :
    argumentsOf (appendArguments "http://x/?y=1" [("a", "x/y+z &=")]) =
        ([("y", "1"), ("a", "x/y+z &=")] : List (Text × Text)) ∧
      ([("_xrd_r", "application/xrds+xml"), ("_xrd_t", "t?u#v")] : List (Text × Text)) <:+
        argumentsOf ((Resolver.ofUrl "http://proxy").queryUrl "@a(b#c)?d=1" (some "t?u#v")) := by
  -- The URL has no fragment, and its own query is an argument already.
  have appended := (arguments_reach_query.1 "http://x/?y=1" [("a", "x/y+z &=")] (by decide)).2
    (by decide)
  have own : argumentsOf "http://x/?y=1" = ([("y", "1")] : List (Text × Text)) := by
    decide +kernel
  rw [own] at appended
  refine ⟨appended, (arguments_reach_query.2 (.ofUrl "http://proxy") "@a(b#c)?d=1" (by decide)
    fun front back whole => ?_).2 "t?u#v"⟩
  -- There is one number sign, so it is the one in the parentheses.
  have single : ("@a(b#c)?d=1" : Text).count '#' = 1 := by decide
  rw [whole, List.count_append, List.count_cons_self] at single
  have absent : '#' ∉ front := List.count_eq_zero.mp (by omega)
  have split : Text.splitFirst '#' "@a(b#c)?d=1" = some (front, back) :=
    Text.splitFirst_eq_some_iff.mpr ⟨whole, absent⟩
  have known : Text.splitFirst '#' "@a(b#c)?d=1" = some (("@a(b" : Text), ("c)?d=1" : Text)) := by
    decide
  rw [known] at split
  cases split
  exact ⟨"@a", "b", rfl, by decide⟩

/-- Question marks at the end of a URL are not read as a part of its last argument any more, and
behind a number sign appended arguments are not in the query. Those of a resolver are not in it
behind that of an XRI. -/
theorem appended_arguments_unread :
    (¬∀ (url : Text) (pairs : List (Text × Text)),
      argumentsOf (appendArguments url pairs) = argumentsOf url ++ pairs) ∧
    (¬∀ (url : Text) (pairs : List (Text × Text)), url.getLast? ≠ some '?' →
      argumentsOf (appendArguments url pairs) = argumentsOf url ++ pairs) ∧
    ¬∀ (resolver : Resolver) (xri : Text),
      ([("_xrd_r", "application/xrds+xml;sep=false")] : List (Text × Text)) <:+
        argumentsOf (resolver.queryUrl xri none) := by
  refine ⟨fun always => ?_, fun always => ?_, fun always => ?_⟩
  -- The value is `b` behind the first URL, where that of the URL itself is `b?`.
  · exact absurd (always "http://x/?a=b?" [("k", "v")]) (by decide +kernel)
  · exact absurd (always "http://x/#f" [("k", "v")] (by decide)) (by decide +kernel)
  · exact absurd (always (.ofUrl "http://proxy/") "=a#b") (by decide +kernel)

end RelyingParty.Xri
