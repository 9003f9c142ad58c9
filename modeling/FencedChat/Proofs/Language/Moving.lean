import FencedChat.Language.Builtin
import FencedChat.Proofs.Grammar.Walk

/-!
The rules of the built-in languages. None of them matches the empty text at any place: every pattern
has a part that takes a character, whatever literal is left open and whatever word is looked for.
-/

namespace FencedChat

namespace Language

variable {names : List String}

theorem advances_keywordRule (hne : names ≠ []) (h : "" ∉ names) :
    (keywordRule names hne h).pattern.advances = true := Pattern.advances_words hne h

theorem advances_builtinRule (hne : names ≠ []) (h : "" ∉ names) :
    (builtinRule names hne h).pattern.advances = true := Pattern.advances_words hne h

theorem advances_keywordAnyCaseRule (hne : names ≠ []) (h : "" ∉ names) :
    (keywordAnyCaseRule names hne h).pattern.advances = true := Pattern.advances_wordsAnyCase hne h

theorem advances_builtinAnyCaseRule (hne : names ≠ []) (h : "" ∉ names) :
    (builtinAnyCaseRule names hne h).pattern.advances = true := Pattern.advances_wordsAnyCase hne h

theorem advances_of_mem_builtin : ∀ g ∈ builtin, ∀ r ∈ g.rules, r.pattern.advances = true := by
  simp only [builtin, List.forall_mem_cons, List.not_mem_nil, false_imp_iff, implies_true, and_true]
  refine ⟨?python, ?javascript, ?typescript, ?java, ?c, ?cpp, ?csharp, ?go, ?rust, ?html,
    ?css, ?bash, ?sql, ?json, ?yaml⟩
  all_goals
    apply Grammar.forall_mem_ofRules
    -- the words are settled for any list of them; the other patterns are closed terms
    simp only [commentRules, List.cons_append, List.nil_append, List.forall_mem_cons,
      advances_keywordRule, advances_builtinRule, advances_keywordAnyCaseRule,
      advances_builtinAnyCaseRule]
    decide

theorem neverEmpty_of_mem_builtin {g : Grammar} (hg : g ∈ builtin) : ∀ r ∈ g.rules, r.NeverEmpty :=
  fun r hr => Rule.neverEmpty_of_advances (advances_of_mem_builtin g hg r hr)

theorem pairwise_of_mem_builtin : ∀ g ∈ builtin, g.rules.Pairwise Grammar.NotBehind := by
  simp only [builtin, List.forall_mem_cons, List.not_mem_nil, false_imp_iff, implies_true, and_true]
  refine ⟨?python, ?javascript, ?typescript, ?java, ?c, ?cpp, ?csharp, ?go, ?rust, ?html,
    ?css, ?bash, ?sql, ?json, ?yaml⟩
  all_goals exact Grammar.pairwise_byPriority _

end Language

end FencedChat
