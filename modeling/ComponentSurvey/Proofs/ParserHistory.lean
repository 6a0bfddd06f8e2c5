import ComponentSurvey.Source.ParserCache
import Mathlib.Data.List.Nodup

/-!
# Parsers along a history of calls

Parsers are asked for one after the other, and the making of a parser may fail at any step. What the
cache holds is tied to all parsers that were handed out: each of them is still found under its
grammar, and each that is held was handed out.

* `ParserCache.Call` — a call for a parser, with what makes it fail if a parser has to be made.
* `ParserCache.after`, `ParserCache.history` — the cache after some calls, and their answers.
* `ParserCache.call_cases` — what one call can do.
* `ParserCache.Reflects` — the cache holds what was handed out; `ParserCache.reflects_history`.
* `ParserCache.parsers_along_history` — failures, the cache and the identity of parsers at every step.
-/

namespace ComponentSurvey

namespace ParserCache

/-- A call for the parser of a file. -/
structure Call where
  path : String
  /-- Why a parser cannot be made at this step, if it cannot. -/
  fault? : Option String
deriving DecidableEq, Repr

/-- The grammar that a call asks for, which no proof needs to read from the path. -/
@[irreducible] def Call.grammar (call : Call) : Grammar := .ofPath call.path

/-- The answer to a call: a parser, or a failure. -/
abbrev Answer := Except GrammarFailure MadeParser

/-- The answer to a call. -/
def answer (cache : ParserCache) (call : Call) : Answer :=
  (cache.obtain call.path call.fault?).value.1

/-- The cache after a call. -/
def next (cache : ParserCache) (call : Call) : ParserCache :=
  (cache.obtain call.path call.fault?).value.2

/-- The cache after calls that are made one after the other. -/
def after (cache : ParserCache) (calls : List Call) : ParserCache := calls.foldl next cache

@[simp] theorem after_nil (cache : ParserCache) : cache.after [] = cache := rfl

@[simp] theorem after_cons (cache : ParserCache) (call : Call) (rest : List Call) :
    cache.after (call :: rest) = (cache.next call).after rest := rfl

/-- Calls that are made one after the other, with their answers. -/
def history (cache : ParserCache) : List Call → List (Call × Answer)
  | [] => []
  | call :: rest => (call, cache.answer call) :: (cache.next call).history rest

/-- A parser that the cache finds under a grammar is one that it holds, and of this grammar. -/
theorem of_find? {cache : ParserCache} {grammar : Grammar} {parser : MadeParser}
    (h : cache.find? grammar = some parser) : parser ∈ cache.made ∧ parser.grammar = grammar := by
  rw [find?] at h
  have hgrammar := List.find?_some h
  exact ⟨List.mem_of_find?_eq_some h, eq_of_beq hgrammar⟩

/-- A grammar under which no parser is found is that of no parser held. -/
theorem grammar_ne_of_find? {cache : ParserCache} {grammar : Grammar}
    (h : cache.find? grammar = none) : ∀ parser ∈ cache.made, parser.grammar ≠ grammar := by
  intro parser hparser hgrammar
  have hne := List.find?_eq_none.1 h parser hparser
  simp [hgrammar] at hne

/-- A new parser is found under its grammar, and what was found before is found under any other. -/
theorem find?_cons (cache : ParserCache) (parser : MadeParser) (grammar : Grammar) :
    find? ⟨parser :: cache.made⟩ grammar
      = if parser.grammar = grammar then some parser else cache.find? grammar := by
  rw [find?, List.find?_cons]
  by_cases h : parser.grammar = grammar
  · simp [h]
  · simp [h, beq_false_of_ne h, find?]

/-- A call finds a parser, or fails to make one, or makes one. -/
theorem call_cases (cache : ParserCache) (call : Call) :
    (∃ parser, cache.find? call.grammar = some parser ∧
      cache.answer call = .ok parser ∧ cache.next call = cache) ∨
    (∃ reason, cache.find? call.grammar = none ∧ call.fault? = some reason ∧
      cache.answer call = .error ⟨call.grammar, reason⟩ ∧ cache.next call = cache) ∨
    (cache.find? call.grammar = none ∧ call.fault? = none ∧
      cache.answer call = .ok ⟨call.grammar, cache.made.length⟩ ∧
      cache.next call = ⟨⟨call.grammar, cache.made.length⟩ :: cache.made⟩) := by
  simp only [answer, next, obtain, Call.grammar]
  cases hfind : cache.find? (Grammar.ofPath call.path) with
  | some parser => exact .inl ⟨parser, rfl, rfl, rfl⟩
  | none =>
    cases hfault : call.fault? with
    | some reason => exact .inr (.inl ⟨reason, rfl, rfl, rfl, rfl⟩)
    | none => exact .inr (.inr ⟨rfl, rfl, rfl, rfl⟩)

/-! ### The cache and what was handed out -/

/-- The cache holds exactly the parsers that were handed out, each under its grammar and with a number
of its own. -/
structure Reflects (cache : ParserCache) (past : List (Call × Answer)) : Prop where
  found : ∀ step ∈ past, ∀ parser, step.2 = .ok parser → cache.find? step.1.grammar = some parser
  given : ∀ parser ∈ cache.made, ∃ step ∈ past, step.2 = .ok parser
  bounded : ∀ parser ∈ cache.made, parser.number < cache.made.length
  numbers : (cache.made.map MadeParser.number).Nodup
  grammars : (cache.made.map MadeParser.grammar).Nodup

theorem reflects_empty : Reflects empty [] where
  found := fun _ hstep => (List.not_mem_nil hstep).elim
  given := fun _ hparser => (List.not_mem_nil hparser).elim
  bounded := fun _ hparser => (List.not_mem_nil hparser).elim
  numbers := .nil
  grammars := .nil

namespace Reflects

variable {cache : ParserCache} {past : List (Call × Answer)} {call : Call}

/-- An answer that leaves the cache as it is may be any failure, or a parser that was found. -/
theorem append_of_found (h : cache.Reflects past) {answer : Answer}
    (hanswer : ∀ parser, answer = .ok parser → cache.find? call.grammar = some parser) :
    cache.Reflects (past ++ [(call, answer)]) where
  found := by
    intro step hstep parser hparser
    rcases List.mem_append.1 hstep with hstep | hstep
    · exact h.found step hstep parser hparser
    · rw [List.mem_singleton.1 hstep] at hparser ⊢
      exact hanswer parser hparser
  given := by
    intro parser hparser
    obtain ⟨step, hstep, hgiven⟩ := h.given parser hparser
    exact ⟨step, List.mem_append_left _ hstep, hgiven⟩
  bounded := h.bounded
  numbers := h.numbers
  grammars := h.grammars

/-- A new parser has a grammar and a number that no parser had before. -/
theorem append_of_made (h : cache.Reflects past) (hnone : cache.find? call.grammar = none)
    {parser : MadeParser} (hgrammar : parser.grammar = call.grammar)
    (hnumber : parser.number = cache.made.length) :
    Reflects ⟨parser :: cache.made⟩ (past ++ [(call, .ok parser)]) where
  found := by
    intro step hstep other hother
    rw [find?_cons, hgrammar]
    rcases List.mem_append.1 hstep with hstep | hstep
    · have hfound := h.found step hstep other hother
      have hne : call.grammar ≠ step.1.grammar := by
        intro heq
        rw [← heq, hnone] at hfound
        cases hfound
      rw [if_neg hne, hfound]
    · rw [List.mem_singleton.1 hstep] at hother ⊢
      rw [if_pos rfl, Except.ok.inj hother]
  given := by
    intro other hother
    rcases List.mem_cons.1 hother with rfl | hother
    · exact ⟨_, List.mem_append_right _ List.mem_cons_self, rfl⟩
    · obtain ⟨step, hstep, hgiven⟩ := h.given other hother
      exact ⟨step, List.mem_append_left _ hstep, hgiven⟩
  bounded := by
    intro other hother
    rw [List.length_cons]
    rcases List.mem_cons.1 hother with rfl | hother
    · omega
    · exact Nat.lt_succ_of_lt (h.bounded other hother)
  numbers := by
    rw [List.map_cons, List.nodup_cons]
    refine ⟨?_, h.numbers⟩
    intro hmem
    obtain ⟨other, hother, heq⟩ := List.mem_map.1 hmem
    exact Nat.ne_of_lt (h.bounded other hother) (heq.trans hnumber)
  grammars := by
    rw [List.map_cons, List.nodup_cons]
    refine ⟨?_, h.grammars⟩
    intro hmem
    obtain ⟨other, hother, heq⟩ := List.mem_map.1 hmem
    exact grammar_ne_of_find? hnone other hother (heq.trans hgrammar)

/-- A call keeps the cache and what was handed out together. -/
theorem next (h : cache.Reflects past) (call : Call) :
    (cache.next call).Reflects (past ++ [(call, cache.answer call)]) := by
  rcases cache.call_cases call with ⟨parser, hfind, hanswer, hnext⟩ |
    ⟨reason, _, _, hanswer, hnext⟩ | ⟨hfind, _, hanswer, hnext⟩
  · rw [hanswer, hnext]
    refine h.append_of_found fun other hother => ?_
    rw [hfind, Except.ok.inj hother]
  · rw [hanswer, hnext]
    exact h.append_of_found fun other hother => by cases hother
  · rw [hanswer, hnext]
    exact h.append_of_made hfind rfl rfl

/-- Calls keep the cache and what was handed out together. -/
theorem after (h : cache.Reflects past) (calls : List Call) :
    (cache.after calls).Reflects (past ++ cache.history calls) := by
  induction calls generalizing cache past with
  | nil =>
    rw [after_nil, history, List.append_nil]
    exact h
  | cons call rest ih =>
    rw [after_cons, history, List.append_cons]
    exact ih (h.next call)

/-- A grammar has a parser in the cache if and only if one was handed out for it. -/
theorem mem_grammars_iff (h : cache.Reflects past) (grammar : Grammar) :
    grammar ∈ cache.made.map MadeParser.grammar ↔
      ∃ step ∈ past, step.1.grammar = grammar ∧ ∃ parser, step.2 = .ok parser := by
  constructor
  · intro hmem
    obtain ⟨parser, hparser, hgrammar⟩ := List.mem_map.1 hmem
    obtain ⟨step, hstep, hgiven⟩ := h.given parser hparser
    have hfound := of_find? (h.found step hstep parser hgiven)
    exact ⟨step, hstep, hfound.2.symm.trans hgrammar, parser, hgiven⟩
  · rintro ⟨step, hstep, rfl, parser, hgiven⟩
    have hfound := of_find? (h.found step hstep parser hgiven)
    exact List.mem_map.2 ⟨parser, hfound⟩

/-- No parser is found under a grammar if and only if none was handed out for it. -/
theorem find?_eq_none_iff (h : cache.Reflects past) (grammar : Grammar) :
    cache.find? grammar = none ↔
      ∀ step ∈ past, ∀ parser, step.2 = .ok parser → step.1.grammar ≠ grammar := by
  constructor
  · intro hnone step hstep parser hgiven heq
    have hfound := h.found step hstep parser hgiven
    rw [heq, hnone] at hfound
    cases hfound
  · intro hpast
    cases hfind : cache.find? grammar with
    | none => rfl
    | some parser =>
      obtain ⟨hparser, hgrammar⟩ := of_find? hfind
      obtain ⟨step, hstep, hgiven⟩ := h.given parser hparser
      have hfound := of_find? (h.found step hstep parser hgiven)
      exact absurd (hfound.2.symm.trans hgrammar) (hpast step hstep parser hgiven)

/-- Two parsers that were handed out are one if and only if they are for one grammar. -/
theorem eq_iff_grammar_eq (h : cache.Reflects past) {first second : Call × Answer}
    (hfirst : first ∈ past) (hsecond : second ∈ past) {parser other : MadeParser}
    (hparser : first.2 = .ok parser) (hother : second.2 = .ok other) :
    parser = other ↔ first.1.grammar = second.1.grammar := by
  have hfound := h.found first hfirst parser hparser
  have hfound' := h.found second hsecond other hother
  constructor
  · rintro rfl
    rw [← (of_find? hfound).2, ← (of_find? hfound').2]
  · intro heq
    rw [heq, hfound'] at hfound
    exact (Option.some.inj hfound).symm

/-- Two parsers that were handed out are told apart by their numbers. -/
theorem number_eq_iff (h : cache.Reflects past) {first second : Call × Answer}
    (hfirst : first ∈ past) (hsecond : second ∈ past) {parser other : MadeParser}
    (hparser : first.2 = .ok parser) (hother : second.2 = .ok other) :
    parser.number = other.number ↔ parser = other := by
  have hmem := (of_find? (h.found first hfirst parser hparser)).1
  have hmem' := (of_find? (h.found second hsecond other hother)).1
  exact ⟨fun hnumber => List.inj_on_of_nodup_map h.numbers hmem hmem' hnumber,
    fun heq => congrArg MadeParser.number heq⟩

end Reflects

/-- The cache after calls from an empty one and their answers go together. -/
theorem reflects_history (calls : List Call) :
    (empty.after calls).Reflects (empty.history calls) := by
  have h := reflects_empty.after calls
  rwa [List.nil_append] at h

theorem history_concat (cache : ParserCache) (calls : List Call) (call : Call) :
    cache.history (calls ++ [call])
      = cache.history calls ++ [(call, (cache.after calls).answer call)] := by
  induction calls generalizing cache with
  | nil => rfl
  | cons first rest ih =>
    rw [List.cons_append, history, ih]
    rfl

theorem after_concat (cache : ParserCache) (calls : List Call) (call : Call) :
    cache.after (calls ++ [call]) = (cache.after calls).next call := by
  rw [after, after, List.foldl_append]
  rfl

/-- At every step of a sequence of calls from an empty cache, whose makings of parsers may fail:
a call fails exactly if a parser cannot be made at this step and none was handed out before for its
grammar; a failure leaves the cache as it was, and a call at whose step a parser can be made is
answered with one; the cache holds one parser for each grammar for which one was handed out, and no
other; and two parsers that were handed out are one and the same exactly if they are for one
grammar. -/
theorem parsers_along_history (before : List Call) (call : Call) :
    let cache := empty.after before
    let calls := before ++ [call]
    empty.history calls = empty.history before ++ [(call, cache.answer call)] ∧
    (∀ failure, cache.answer call = .error failure ↔
      call.fault? = some failure.reason ∧ failure.grammar = call.grammar ∧
        ∀ step ∈ empty.history before, ∀ parser, step.2 = .ok parser →
          step.1.grammar ≠ call.grammar) ∧
    (∀ failure, cache.answer call = .error failure → empty.after calls = cache) ∧
    (call.fault? = none → ∃ parser, cache.answer call = .ok parser) ∧
    (∀ grammar, grammar ∈ (empty.after calls).made.map MadeParser.grammar ↔
      ∃ step ∈ empty.history calls, step.1.grammar = grammar ∧ ∃ parser, step.2 = .ok parser) ∧
    ((empty.after calls).made.map MadeParser.grammar).Nodup ∧
    (∀ first ∈ empty.history calls, ∀ second ∈ empty.history calls, ∀ parser other,
      first.2 = .ok parser → second.2 = .ok other →
        (parser = other ↔ first.1.grammar = second.1.grammar) ∧
        (parser.number = other.number ↔ parser = other)) := by
  intro cache calls
  have hbefore : cache.Reflects (empty.history before) := reflects_history before
  have hcalls : (empty.after calls).Reflects (empty.history calls) := reflects_history calls
  have hnext : empty.after calls = cache.next call := after_concat empty before call
  refine ⟨history_concat empty before call, fun failure => ?_, fun failure hfailure => ?_,
    fun hfault => ?_, hcalls.mem_grammars_iff, hcalls.grammars,
    fun first hfirst second hsecond parser other hparser hother => ?_⟩
  · rw [← hbefore.find?_eq_none_iff]
    rcases cache.call_cases call with ⟨parser, hfind, hanswer, _⟩ |
      ⟨reason, hfind, hfault, hanswer, _⟩ | ⟨hfind, hfault, hanswer, _⟩
    · simp [hfind, hanswer]
    · rw [hanswer, hfind, hfault]
      constructor
      · intro h
        cases h
        exact ⟨rfl, rfl, rfl⟩
      · rintro ⟨hreason, hgrammar, _⟩
        rw [← hgrammar, Option.some.inj hreason]
    · simp [hfault, hanswer]
  · rw [hnext]
    rcases cache.call_cases call with ⟨_, _, _, hsame⟩ | ⟨_, _, _, _, hsame⟩ | ⟨_, _, hanswer, _⟩
    · exact hsame
    · exact hsame
    · rw [hanswer] at hfailure
      cases hfailure
  · rcases cache.call_cases call with ⟨parser, _, hanswer, _⟩ | ⟨_, _, hreason, _⟩ |
      ⟨_, _, hanswer, _⟩
    · exact ⟨parser, hanswer⟩
    · rw [hfault] at hreason
      cases hreason
    · exact ⟨_, hanswer⟩
  · exact ⟨hcalls.eq_iff_grammar_eq hfirst hsecond hparser hother,
      hcalls.number_eq_iff hfirst hsecond hparser hother⟩

-- A parser that could not be made is made at the next call for its grammar, and kept from then on.
example :
    (empty.history [⟨"a.ts", some "no"⟩, ⟨"b.ts", none⟩, ⟨"c.tsx", none⟩, ⟨"d.TS", some "no"⟩]).map
        Prod.snd
      = [.error ⟨.typescript, "no"⟩, .ok ⟨.typescript, 0⟩, .ok ⟨.tsx, 1⟩, .ok ⟨.typescript, 0⟩] := by
  rfl

end ParserCache

end ComponentSurvey
