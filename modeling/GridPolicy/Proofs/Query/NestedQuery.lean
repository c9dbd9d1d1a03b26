import GridPolicy.Policy.QueryProcessor
import GridPolicy.Proofs.Query.NamedTokens
import Mathlib.Data.List.TakeWhile

/-!
# Nested queries

A lifetime may be given as a query in parentheses behind a token of its own. What is taken
for the query begins behind the character after the token, whichever that is, and ends before
the first closing parenthesis. So a query with parentheses of its own, as around the leaves
of a resource, is cut short inside the first of them, and only a query without any is taken
whole. What is taken is what the catalog is asked, once its named tokens are filled.
-/
namespace GridPolicy

namespace Template

/-- The parentheses of a text stand in pairs. -/
inductive Balanced : List Char → Prop
  | nil : Balanced []
  | char {c : Char} {cs : List Char} (hopening : c ≠ '(') (hclosing : c ≠ ')')
      (h : Balanced cs) : Balanced (c :: cs)
  | group {inner cs : List Char} (hinner : Balanced inner) (h : Balanced cs) :
      Balanced ('(' :: (inner ++ ')' :: cs))

theorem Balanced.plain_append {cs rest : List Char} (hcs : '(' ∉ cs ∧ ')' ∉ cs)
    (h : Balanced rest) : Balanced (cs ++ rest) := by
  induction cs with
  | nil => exact h
  | cons c cs ih =>
    simp only [List.mem_cons, not_or] at hcs
    exact .char (Ne.symm hcs.1.1) (Ne.symm hcs.2.1) (ih ⟨hcs.1.2, hcs.2.2⟩)

/-- What a text has up to its first closing parenthesis. -/
def untilClosing (cs : List Char) : List Char := cs.takeWhile (· != ')')

/-- A query as it is given for a lifetime. -/
def enclosed (lead query : List Char) : String :=
  String.ofList (lead ++ (nestedToken.toList ++ '(' :: (query ++ [')'])))

section Balance

variable {cs : List Char}

theorem Balanced.count_eq (h : Balanced cs) : cs.count '(' = cs.count ')' := by
  induction h with
  | nil => rfl
  | char hopening hclosing _ ih => simp [hopening, hclosing, ih]
  | group _ _ ihinner ih =>
    simp only [List.count_cons, List.count_append, ihinner, ih]
    simp
    omega

theorem closing_not_mem_untilClosing : ')' ∉ untilClosing cs := fun h => by
  simpa using List.mem_takeWhile_imp h

/-- The first closing parenthesis of a balanced text has one to close. -/
theorem Balanced.opening_mem_untilClosing (h : Balanced cs) (hclosing : ')' ∈ cs) :
    '(' ∈ untilClosing cs := by
  induction h with
  | nil => simp at hclosing
  | @char c cs _ hne _ ih =>
    have hlater : ')' ∈ cs := by simpa [hne.symm] using hclosing
    simpa [untilClosing, hne] using .inr (ih hlater)
  | group => simp [untilClosing]

theorem Balanced.not_balanced_untilClosing (h : Balanced cs) (hclosing : ')' ∈ cs) :
    ¬ Balanced (untilClosing cs) := by
  intro hcut
  have hnone : (untilClosing cs).count ')' = 0 :=
    List.count_eq_zero.mpr closing_not_mem_untilClosing
  have hsome := List.count_pos_iff.mpr (h.opening_mem_untilClosing hclosing)
  have hcount := hcut.count_eq
  omega

theorem untilClosing_eq_self : untilClosing cs = cs ↔ ')' ∉ cs := by
  rw [untilClosing, List.takeWhile_eq_self_iff]
  constructor
  · intro h hmem
    simpa using h _ hmem
  · intro h c hc
    simpa using fun heq : c = ')' => h (heq ▸ hc)

theorem Balanced.opening_not_mem (h : Balanced cs) (hclosing : ')' ∉ cs) : '(' ∉ cs := by
  have hcount := h.count_eq
  rw [List.count_eq_zero.mpr hclosing] at hcount
  exact List.count_eq_zero.mp hcount

end Balance

section Extraction

variable {lead cs query : List Char}

theorem unbordered_nestedToken : Text.Unbordered nestedToken.toList := by decide

theorem nestedToken_ne_nil : nestedToken.toList ≠ [] := by decide

theorem cutAt_closing : (Text.cutAt [')'] cs).map Prod.fst =
    if ')' ∈ cs then some (untilClosing cs) else none := by
  induction cs with
  | nil => rfl
  | cons c r ih =>
    have hbegins : [')'].isPrefixOf? (c :: r) = if ')' == c then some r else none := rfl
    by_cases hc : c = ')'
    · subst hc
      simp [Text.cutAt, hbegins, untilClosing]
    · have hnone : [')'].isPrefixOf? (c :: r) = none := by simpa [hbegins] using Ne.symm hc
      have hmap : (Text.cutAt [')'] (c :: r)).map Prod.fst =
          ((Text.cutAt [')'] r).map Prod.fst).map (c :: ·) := by
        simp [Text.cutAt, hnone, Function.comp_def]
      have hkept : untilClosing (c :: r) = c :: untilClosing r := by simp [untilClosing, hc]
      rw [hmap, ih, hkept]
      by_cases hr : ')' ∈ r <;> simp [hr, Ne.symm hc]

/-- Behind the token one character is passed over, and the query ends before the next closing
parenthesis. -/
theorem nestedQuery?_behind (hlead : ¬ nestedToken.toList <:+: lead) (rest : List Char) :
    nestedQuery? (String.ofList (lead ++ (nestedToken.toList ++ rest))) =
      if ')' ∈ rest.tail then some (String.ofList (untilClosing rest.tail)) else none := by
  have hcut := Text.cutAt_append unbordered_nestedToken nestedToken_ne_nil hlead rest
  unfold nestedQuery?
  rw [String.toList_ofList, hcut]
  cases rest with
  | nil => rfl
  | cons c body =>
    have hbody : ((Text.cutAt [')'] body).map Prod.fst).map String.ofList =
        if ')' ∈ body then some (String.ofList (untilClosing body)) else none := by
      rw [cutAt_closing]
      split <;> rfl
    rw [List.tail_cons, ← hbody, Option.map_map, Option.bind_eq_bind, Option.bind_some]
    dsimp only [List.tail?, Option.bind_eq_bind, Option.bind_some]
    cases Text.cutAt [')'] body <;> rfl

theorem nestedQuery?_enclosed (hlead : ¬ nestedToken.toList <:+: lead) (query : List Char) :
    nestedQuery? (enclosed lead query) = some (String.ofList (untilClosing query)) := by
  have hends : untilClosing (query ++ [')']) = untilClosing query := by
    induction query with
    | nil => rfl
    | cons c r ih => by_cases hc : c = ')' <;> simp_all [untilClosing]
  rw [enclosed, nestedQuery?_behind hlead, List.tail_cons, if_pos (by simp), hends]

theorem isNested_behind (hlead : ¬ nestedToken.toList <:+: lead) (rest : List Char) :
    isNested (.text (String.ofList (lead ++ (nestedToken.toList ++ rest)))) = true := by
  have hcut := Text.cutAt_append unbordered_nestedToken nestedToken_ne_nil hlead rest
  simp [isNested, Text.contains, hcut]

end Extraction

end Template

namespace QueryProcessor

variable {i : Invocation} {c : Circumstances} {text query : String}

/-- For the lifetime the catalog is asked this query, once its named tokens are filled; if they
cannot be, it is not asked. -/
structure LifetimeAsks (i : Invocation) (c : Circumstances) (query : String) : Prop where
  asked : ∀ grid log filled mid,
    Template.fillNamed query c grid log = (.done filled, mid) →
      (cutoff i c grid log).2 = mid ++ [.call (.query filled 1 .general)]
  refused : ∀ grid log e mid, Template.fillNamed query c grid log = (.failed e, mid) →
    cutoff i c grid log = (.failed (.query (.substitution e)), mid)

theorem firstValue_asks {grid : Grid} {log mid : List Entry} {filled : String}
    (h : Template.fillNamed query c grid log = (.done filled, mid)) :
    (firstValue query c grid log).2 = mid ++ [.call (.query filled 1 .general)] := by
  unfold firstValue
  rw [Run.bind_of_done (Run.mapError_apply_eq_done.mpr h), Run.bind_snd (fun _ _ _ => rfl),
    Run.mapError_apply]
  obtain ⟨_, hlog, rfl, -⟩ := Run.queryRows_yields filled 1 .general grid mid
  exact hlog

/-- The seconds that the answer to a nested query stands for. -/
def secondsOf (i : Invocation) (first : String) : Run PolicyError Int :=
  match Text.int64? (Text.trim first) with
  | some seconds => pure seconds
  | none => i.refuse ("lifetime query returned [" ++ first ++ "], not a number")

theorem secondsOf_snd (i : Invocation) (first : String) (grid : Grid) (log : List Entry) :
    (secondsOf i first grid log).2 = log := by
  unfold secondsOf
  cases Text.int64? (Text.trim first) <;> rfl

/-- The answer to a nested query is only read; nothing is asked because of it. -/
theorem lifetimeAsks_of_nestedQuery (hlifetime : i.parameters.get? "lifetime" = some (.text text))
    (hnested : Template.isNested (.text text) = true)
    (hquery : Template.nestedQuery? text = some query) : LifetimeAsks i c query := by
  have hcutoff : cutoff i c = lifetimeSeconds i c (.text text) >>= fun seconds =>
      pure (Text.clampInt64 (c.currentTime - seconds)) := by
    simp only [cutoff, hlifetime]
  have hseconds : lifetimeSeconds i c (.text text) = firstValue query c >>= secondsOf i := by
    simp only [lifetimeSeconds, hnested, ↓reduceIte, Document.text?, Option.getD_some, hquery]
    rfl
  constructor
  · intro grid log filled mid hfilled
    rw [hcutoff, hseconds, Run.bind_snd (fun _ _ _ => rfl), Run.bind_snd (secondsOf_snd i),
      firstValue_asks hfilled]
  · intro grid log e mid hfailed
    have hfirst : firstValue query c grid log = (.failed (.query (.substitution e)), mid) := by
      unfold firstValue
      exact Run.bind_of_stop (Run.mapError_of_failed hfailed) rfl
    rw [hcutoff, hseconds]
    exact Run.bind_of_stop (Run.bind_of_stop hfirst rfl) rfl

theorem cutoff_of_malformed (hlifetime : i.parameters.get? "lifetime" = some (.text text))
    (hnested : Template.isNested (.text text) = true)
    (hquery : Template.nestedQuery? text = none) :
    cutoff i c = i.refuse ("malformed lifetime query [" ++ text ++ "]") := by
  simp only [cutoff, hlifetime, lifetimeSeconds, hnested, Document.text?, hquery,
    ↓reduceIte, Option.getD_some]
  rfl

end QueryProcessor

namespace Template

/-- What is taken for a balanced query in parentheses is the part of it up to its first closing
parenthesis, and of this part the catalog is asked. It is the query if that has no parentheses,
and not even balanced if it has. A token is refused only if behind the next character, whichever
that is, no parenthesis is closed. -/
theorem nestedQuery?_cut_short {lead : List Char} (hlead : ¬ nestedToken.toList <:+: lead) :
    (∀ query, Balanced query →
      nestedQuery? (enclosed lead query) = some (String.ofList (untilClosing query)) ∧
      (nestedQuery? (enclosed lead query) = some (String.ofList query) ↔
        '(' ∉ query ∧ ')' ∉ query) ∧
      (')' ∈ query → ¬ Balanced (untilClosing query)) ∧
      ∀ i c, i.parameters.get? "lifetime" = some (.text (enclosed lead query)) →
        QueryProcessor.LifetimeAsks i c (String.ofList (untilClosing query))) ∧
    ∀ rest, let text := String.ofList (lead ++ (nestedToken.toList ++ rest))
      (nestedQuery? text = none ↔ ')' ∉ rest.tail) ∧
      ∀ i c, i.parameters.get? "lifetime" = some (.text text) → ')' ∉ rest.tail →
        QueryProcessor.cutoff i c = i.refuse ("malformed lifetime query [" ++ text ++ "]") := by
  refine ⟨fun query hbalanced => ⟨nestedQuery?_enclosed hlead query, ?_,
    hbalanced.not_balanced_untilClosing, fun i c hlifetime => ?_⟩, fun rest => ⟨?_, ?_⟩⟩
  · rw [nestedQuery?_enclosed hlead, Option.some.injEq, String.ofList_inj, untilClosing_eq_self]
    exact ⟨fun hclosing => ⟨hbalanced.opening_not_mem hclosing, hclosing⟩, And.right⟩
  · exact QueryProcessor.lifetimeAsks_of_nestedQuery hlifetime (isNested_behind hlead _)
      (nestedQuery?_enclosed hlead query)
  · rw [nestedQuery?_behind hlead]
    split <;> simp_all
  · intro i c hlifetime hclosing
    refine QueryProcessor.cutoff_of_malformed hlifetime (isNested_behind hlead _) ?_
    rw [nestedQuery?_behind hlead, if_neg hclosing]

/-- A query for the leaves of a resource is cut off behind its token for them. -/
theorem nestedQuery?_cut_short_leaves :
    let query := "SELECT A WHERE B IN (IRODS_TOKEN_SOURCE_RESOURCE_LEAF_BUNDLE_END_TOKEN)".toList
    ¬ nestedToken.toList <:+: [] ∧ Balanced query ∧
    nestedQuery? (enclosed [] query) =
      some "SELECT A WHERE B IN (IRODS_TOKEN_SOURCE_RESOURCE_LEAF_BUNDLE_END_TOKEN" := by
  intro query
  have hlead : ¬ nestedToken.toList <:+: [] := by decide
  have hplain : Balanced Token.sourceLeaves.text.toList :=
    List.append_nil Token.sourceLeaves.text.toList ▸ Balanced.plain_append (by decide) .nil
  have hbalanced : Balanced ("SELECT A WHERE B IN ".toList ++
      '(' :: (Token.sourceLeaves.text.toList ++ [')'])) :=
    .plain_append (by decide) (.group hplain .nil)
  exact ⟨hlead, hbalanced, ((nestedQuery?_cut_short hlead).1 query hbalanced).1⟩

end Template

end GridPolicy
