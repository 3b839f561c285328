import SelectorSyntax.Proofs.Pattern.Backtracking
import SelectorSyntax.Proofs.Token.Munch

/-!
# The first match of a production

Where the grammar lists two alternatives that begin alike, the patterns of the library read the common beginning once
and choose after it.  This is how the search tries them, and it is not in general the order in which a search by trial
would go through the alternatives as they are listed.

* Of a pseudo the identifier is common to both alternatives.  It makes no difference that it is read first: where a
  bracket follows an identifier, this identifier is the longest one, and the longest one is tried first in either form
  (`backtrack_listedPseudo`).
* Of an element the namespace is common to the type and to the universal selector, and here it does make a difference:
  of `ns|*` the type selector alone can take `ns`, and as listed it does so before the universal selector is tried.

`Production.listed` has the rules with all alternatives as they are listed, except that the pattern of an element is
left open.  A search by trial through it finds what the library finds (`Production.leadLength?_eq_listed`).
-/

namespace SelectorSyntax

open Pattern SelectorSyntax.Derivation Lexeme

namespace Rule

/-! ### Rules as they are listed -/

/-- `pseudo : ':' ':'? [ functional_pseudo | IDENT ]` -/
def listedPseudo : Pattern :=
  .seq colons (.alt functionalPseudo ident)

/-- `negation_arg : type_selector | universal | HASH | class | attrib | pseudo` -/
def listedNegationArg : Pattern :=
  choice [typeSelector, universal, idSelector, classSelector, attrib, listedPseudo]

/-- `negation : NOT S* negation_arg S* ')'` -/
def listedNegation : Pattern :=
  concat [Lexeme.not, optionalBlanks, listedNegationArg, optionalBlanks, char ')']

/-- `HASH | class | attrib | pseudo | negation` -/
def listedQualifier : Pattern :=
  choice [idSelector, classSelector, attrib, listedPseudo, listedNegation]

/-- `type_selector | universal` -/
def listedElement : Pattern :=
  .alt typeSelector universal

section

variable (element : Pattern)

/-- `simple_selector_sequence : element qualifier* | qualifier+` -/
def listedSequence : Pattern :=
  .alt (.seq element (star listedQualifier)) (plus listedQualifier)

/-- `selector : simple_selector_sequence [ combinator simple_selector_sequence ]*` -/
def listedSelector : Pattern :=
  .seq (listedSequence element) (star (.seq combinator (listedSequence element)))

/-- `selectors_group : selector [ COMMA S* selector ]*` -/
def listedGroup : Pattern :=
  .seq (listedSelector element) (star (concat [comma, optionalBlanks, listedSelector element]))

end

/-! ### Reading the common beginning once -/

variable {α : Type}

/-- To try what comes after each member right before that member is as good as to try it for all members before any of
them, if something comes after the first one only. -/
private theorem findSome?_flatMap_append_self {l : List Text} {next : Text → List Text} (k : Text → Option α)
    (h : ∀ r ∈ l, next r = [] ∨ l.head? = some r) :
    (l.flatMap fun r => next r ++ [r]).findSome? k = (l.flatMap next ++ l).findSome? k := by
  cases l with
  | nil => rfl
  | cons r₀ l =>
    cases hfirst : (next r₀).findSome? k with
    | some a => simp [List.findSome?_append, hfirst]
    | none =>
      -- then no continuation succeeds, and the members themselves are left
      have hnone : ∀ r ∈ r₀ :: l, (next r).findSome? k = none := by
        intro r hr
        rcases h r hr with hr | hr
        · rw [hr]
          rfl
        · obtain rfl : r₀ = r := by simpa using hr
          exact hfirst
      have hnext : ((r₀ :: l).flatMap next).findSome? k = none := by
        rw [findSome?_flatMap, List.findSome?_eq_none_iff]
        exact hnone
      rw [List.findSome?_append, hnext, Option.none_or, findSome?_flatMap]
      refine findSome?_congr fun r hr => ?_
      rw [List.findSome?_append, hnone r hr]
      cases hk : k r <;> simp [hk]

/-- Only after the identifier that is preferred can an argument follow. -/
private theorem ends_arguments_of_mem_ident {t r : Text} (hr : r ∈ ident.ends t) :
    (Pattern.seq (char '(') argument).ends r = [] ∨ (ident.ends t).head? = some r := by
  cases hargs : (Pattern.seq (char '(') argument).ends r with
  | nil => exact .inl rfl
  | cons s ss =>
    refine .inr ?_
    -- the text goes on with a bracket, so the identifier is the longest one
    obtain ⟨y, hy, rfl⟩ := (mem_ends _ r s).1 (hargs ▸ List.mem_cons_self)
    obtain ⟨i, hi, rfl⟩ := (mem_ends _ _ _).1 hr
    rw [matches_ident] at hi
    rw [matches_seq, matches_char] at hy
    obtain ⟨_, a, rfl, -, rfl⟩ := hy
    have hlongest : Longest Ident (i ++ (['('] ++ a ++ s)) i := longest_ident_of_stop hi (by decide)
    obtain ⟨r₀, rs, hends⟩ := List.exists_cons_of_ne_nil (List.ne_nil_of_mem hr)
    have hhead : (ident.ends (i ++ (['('] ++ a ++ s))).head? = some r₀ := by rw [hends]; rfl
    obtain ⟨i₀, -, heq⟩ := (mem_ends _ _ _).1 (List.mem_of_mem_head? hhead)
    rw [heq] at hhead hlongest
    have hfirst := (longestFirst_ident _).longest hhead
    rw [matches_ident] at hfirst
    obtain rfl := hfirst.unique hlongest
    rw [heq, hhead, List.append_cancel_left heq]

theorem backtrack_listedPseudo : @backtrack α listedPseudo = @backtrack α pseudo := by
  have hchoice : @backtrack α (.alt functionalPseudo ident) =
      @backtrack α (concat [ident, optional (.seq (char '(') argument)]) := by
    funext k t
    rw [backtrack_eq_findSome? (by decide +kernel), backtrack_eq_findSome? (by decide +kernel)]
    have hfirst := findSome?_flatMap_append_self k (l := ident.ends t) fun _ => ends_arguments_of_mem_ident
    simpa [functionalPseudo, function, concat, Pattern.optional, ends, List.flatMap_assoc] using hfirst.symm
  funext k t
  rw [listedPseudo, backtrack, hchoice]
  rfl

theorem backtrack_listedNegationArg : @backtrack α listedNegationArg = @backtrack α negationArg := by
  funext k t
  simp only [listedNegationArg, negationArg, choice, backtrack, backtrack_listedPseudo]

theorem backtrack_listedNegation : @backtrack α listedNegation = @backtrack α negation := by
  funext k t
  simp only [listedNegation, negation, concat, backtrack, backtrack_listedNegationArg]

theorem backtrack_listedQualifier : @backtrack α listedQualifier = @backtrack α qualifier := by
  funext k t
  simp only [listedQualifier, qualifier, choice, backtrack, backtrack_listedPseudo, backtrack_listedNegation]

theorem backtrack_listedSequence :
    @backtrack α (listedSequence elementSelector) = @backtrack α simpleSelectorSequence := by
  funext k t
  simp only [listedSequence, simpleSelectorSequence, Pattern.star, plus, backtrack, backtrack_listedQualifier]

theorem backtrack_listedSelector : @backtrack α (listedSelector elementSelector) = @backtrack α selector := by
  funext k t
  simp only [listedSelector, selector, Pattern.star, backtrack, backtrack_listedSequence]

theorem backtrack_listedGroup : @backtrack α (listedGroup elementSelector) = @backtrack α selectorsGroup := by
  funext k t
  simp only [listedGroup, selectorsGroup, Pattern.star, concat, backtrack, backtrack_listedSelector]

end Rule

namespace Text

theorem size_utf8Encode (t : Text) : t.utf8Encode.size = byteLength t := by
  induction t with
  | nil => rfl
  | cons c t ih =>
    rw [List.utf8Encode_cons, ByteArray.size_append, ih, List.utf8Encode_singleton]
    simp [byteLength]

/-- The first bytes of a text are those of its first characters. -/
theorem extract_utf8Encode_take (t : Text) (n : Nat) :
    t.utf8Encode.extract 0 (byteLength (t.take n)) = (t.take n).utf8Encode := by
  have happend : t.utf8Encode = (t.take n).utf8Encode ++ (t.drop n).utf8Encode := by
    rw [← List.utf8Encode_append, List.take_append_drop]
  rw [happend]
  exact ByteArray.extract_append_eq_left (size_utf8Encode _).symm

end Text

namespace Production

open Rule

/-- The rule of a production with its alternatives as they are listed, over a pattern for
`type_selector | universal` in front of the qualifiers of a sequence. -/
def listed (element : Pattern) : Production → Pattern
  | pseudo => listedPseudo
  | negationArg => listedNegationArg
  | negation => listedNegation
  | simpleSelectorSequence => listedSequence element
  | selector => listedSelector element
  | selectorsGroup => listedGroup element
  | p => p.pattern

theorem isProductive_pattern (p : Production) : p.pattern.isProductive := by
  cases p <;> decide +kernel

theorem backtrack_listed {α : Type} (p : Production) :
    @backtrack α (p.listed elementSelector) = @backtrack α p.pattern := by
  cases p with
  | pseudo => exact backtrack_listedPseudo
  | negationArg => exact backtrack_listedNegationArg
  | negation => exact backtrack_listedNegation
  | simpleSelectorSequence => exact backtrack_listedSequence
  | selector => exact backtrack_listedSelector
  | selectorsGroup => exact backtrack_listedGroup
  | _ => rfl

theorem leadLength?_eq_listed (p : Production) (t : Text) :
    p.leadLength? t = (p.listed elementSelector).trialLength? t := by
  rw [leadLength?, leadLength?_eq_trialLength? p.isUnconditional_pattern p.isProductive_pattern, trialLength?,
    trialLength?, backtrack_listed]

/-! ### The length -/

theorem accepts_take_of_leadLength? {p : Production} {t : Text} {n : Nat} (h : p.leadLength? t = some n) :
    n ≤ t.length ∧ p.accepts (t.take n) = true := by
  rw [leadLength?, leadLength?_eq p.isUnconditional_pattern] at h
  obtain ⟨r, hr, rfl⟩ := Option.map_eq_some_iff.1 h
  obtain ⟨x, hx, rfl⟩ := (mem_ends _ _ _).1 (List.mem_of_mem_head? hr)
  have htake : (x ++ r).take ((x ++ r).length - r.length) = x := by simp
  rw [htake, accepts_iff_matches]
  exact ⟨Nat.sub_le .., hx⟩

theorem leadLength?_eq_none_iff {p : Production} {t : Text} :
    p.leadLength? t = none ↔ ∀ x, x <+: t → p.accepts x = false := by
  constructor
  · intro h x hx
    rw [Bool.eq_false_iff]
    exact fun hacc => Token.leadLength?_eq_none h hacc hx
  · intro h
    rw [Option.eq_none_iff_forall_ne_some]
    intro n hn
    have hacc := (accepts_take_of_leadLength? hn).2
    rw [h _ (List.take_prefix n t)] at hacc
    cases hacc

/-- The search at the beginning of a text fails only if no beginning is an instance of the production, and otherwise
takes one.  It takes the one that a search by trial through the rule finds first, where the namespace of an element is
read before the choice between the two kinds of it. -/
theorem lead_is_first_match (p : Production) (t : Text) :
    (p.leadLength? t = none ↔ ∀ x, x <+: t → p.accepts x = false) ∧
    (∀ n, p.leadLength? t = some n → n ≤ t.length ∧ p.accepts (t.take n) = true ∧
      t.utf8Encode.extract 0 (Text.byteLength (t.take n)) = (t.take n).utf8Encode) ∧
    p.leadLength? t = (p.listed elementSelector).trialLength? t ∧
    (p ∉ [simpleSelectorSequence, selector, selectorsGroup] →
      p.leadLength? t = (p.listed listedElement).trialLength? t) := by
  refine ⟨leadLength?_eq_none_iff, ?_, leadLength?_eq_listed p t, ?_⟩
  · intro n hn
    obtain ⟨hle, hacc⟩ := accepts_take_of_leadLength? hn
    exact ⟨hle, hacc, Text.extract_utf8Encode_take t n⟩
  · intro hp
    -- the other rules have no element in front of qualifiers
    have hlisted : p.listed listedElement = p.listed elementSelector := by
      cases p <;> first | rfl | simp at hp
    rw [hlisted]
    exact leadLength?_eq_listed p t

/-- As the alternatives are listed, the type selector takes `ns` before the universal selector is tried. -/
theorem lead_of_common_namespace :
    selector.leadLength? "ns|* > a".toList = some 8 ∧
      (selector.listed listedElement).trialLength? "ns|* > a".toList = some 2 := by
  decide +kernel

end Production

end SelectorSyntax
