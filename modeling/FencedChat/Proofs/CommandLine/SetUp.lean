import FencedChat.Proofs.CommandLine.Ask
import FencedChat.Proofs.Text.LowerCase

/-!
Setting up the provider that the environment chooses. The variables and the services are found under
the same names, so what the variables describe is never refused, and why there is no provider can
always be printed. An empty variable stands for no key, but it is taken for the name of a model.
-/

namespace FencedChat

open Console StyleTag

/-- A service that an environment can choose: its variables for the key and the model, and its usual
model. -/
structure ServiceChoice where
  service : Service
  keyVariable : String
  modelVariable : String
  usualModel : String

namespace ServiceChoice

def openAI : ServiceChoice := ⟨Service.openAI, "OPENAI_API_KEY", "OPENAI_CHAT_MODEL", "gpt-4o-mini"⟩

def anthropic : ServiceChoice :=
  ⟨Service.anthropic, "ANTHROPIC_API_KEY", "ANTHROPIC_MODEL", "claude-sonnet-4-20250514"⟩

def byName : List (String × ServiceChoice) :=
  [("openai", openAI), ("anthropic", anthropic), ("claude", anthropic)]

/-- The model that is promised: the one in the variable, unless it is unset or empty. -/
def model (c : ServiceChoice) (env : Environment) : String :=
  match env c.modelVariable with
  | none => c.usualModel
  | some m => if m = "" then c.usualModel else m

variable {c : ServiceChoice} {env : Environment}

theorem lookup_byName_eq_none {name : String} (hopenAI : name ≠ "openai")
    (hanthropic : name ≠ "anthropic") (hclaude : name ≠ "claude") : byName.lookup name = none := by
  rw [List.lookup_eq_none_iff]
  simp [byName, hopenAI, hanthropic, hclaude]

theorem variablesOf?_eq (name : String) : Environment.variablesOf? name =
    (byName.lookup name).map fun c => (c.keyVariable, c.modelVariable, c.usualModel) := by
  unfold Environment.variablesOf?
  split
  · rfl
  · rfl
  · rfl
  · rw [lookup_byName_eq_none ‹_› ‹_› ‹_›]
    rfl

theorem service?_eq (name : String) :
    Provider.service? name = (byName.lookup name).map fun c => (c.service, c.usualModel) := by
  unfold Provider.service?
  split
  · rfl
  · rfl
  · rfl
  · rw [lookup_byName_eq_none ‹_› ‹_› ‹_›]
    rfl

theorem of_lookup_byName {name : String} (h : byName.lookup name = some c) :
    c.usualModel ≠ "" ∧ '[' ∉ c.keyVariable.toList := by
  have hall : ∀ e ∈ byName, e.2.usualModel ≠ "" ∧ '[' ∉ e.2.keyVariable.toList := by decide
  obtain ⟨before, after, hsplit, -⟩ := List.lookup_eq_some_iff.mp h
  exact hall (name, c) (by simp [hsplit])

/-- The model in the variable is the promised one, and a name at all, exactly if the variable is not
empty. -/
theorem getD_eq_model_iff (h : c.usualModel ≠ "") :
    ((env c.modelVariable).getD c.usualModel = c.model env ∧
      (env c.modelVariable).getD c.usualModel ≠ "") ↔
      env c.modelVariable ≠ some "" := by
  unfold model
  cases env c.modelVariable with
  | none => simp [h]
  | some m => by_cases hm : m = "" <;> simp [hm]

end ServiceChoice

namespace Environment

variable {env : Environment} {c : ServiceChoice} {p : Provider} {n : SetupNotice}

/-- The service that the environment chooses. -/
def chosen? (env : Environment) : Option ServiceChoice :=
  ServiceChoice.byName.lookup env.providerName

/-- The name of the provider is taken as it is when it is looked up once more. -/
theorem lower_trim_providerName (env : Environment) :
    lower (trim env.providerName) = env.providerName := by
  rw [providerName, trim_lower_trim, lower_lower]

theorem variablesOf?_providerName (env : Environment) : variablesOf? env.providerName =
    env.chosen?.map fun c => (c.keyVariable, c.modelVariable, c.usualModel) :=
  ServiceChoice.variablesOf?_eq _

theorem service?_providerName (env : Environment) :
    Provider.service? env.providerName = env.chosen?.map fun c => (c.service, c.usualModel) :=
  ServiceChoice.service?_eq _

/-- What a name stands for in the environment, it stands for where providers are made. -/
theorem make?_of_chosen (h : env.chosen? = some c) {config : ProviderConfig}
    (hkey : config.apiKey.getD "" ≠ "") :
    Provider.make? env.providerName config = .ok ⟨c.service, config.model.getD c.usualModel⟩ := by
  simp only [Provider.make?, lower_trim_providerName, service?_providerName, h, Option.map_some,
    hkey, if_false]

theorem provider_of_chosen (h : env.chosen? = some c) : env.provider =
    if (env c.keyVariable).getD "" = "" then .error (.missingKey c.keyVariable)
    else .ok ⟨c.service, (env c.modelVariable).getD c.usualModel⟩ := by
  unfold provider
  simp only [variablesOf?_providerName, h, Option.map_some]
  split
  · rfl
  · rename_i hkey
    -- the second look at the key finds what the first one found
    rw [make?_of_chosen h hkey]
    rfl

theorem provider_of_not_chosen (h : env.chosen? = none) :
    env.provider = .error (.unknownProvider env.providerName) := by
  simp only [provider, variablesOf?_providerName, h, Option.map_none]

theorem provider_eq_ok_iff :
    env.provider = .ok p ↔ ∃ c, env.chosen? = some c ∧ (env c.keyVariable).getD "" ≠ "" ∧
    p = ⟨c.service, (env c.modelVariable).getD c.usualModel⟩ := by
  cases hc : env.chosen? with
  | none => simp [provider_of_not_chosen hc]
  | some c =>
    rw [provider_of_chosen hc]
    by_cases hkey : (env c.keyVariable).getD "" = ""
    · simp [hkey]
    · simp only [hkey, if_false, Except.ok.injEq, Option.some.injEq, exists_eq_left', ne_eq,
        not_false_eq_true, true_and]
      exact eq_comm

/-- There are two reasons for having no provider. -/
theorem eq_of_provider_eq_error (h : env.provider = .error n) :
    n = .unknownProvider env.providerName ∨
    ∃ c, env.chosen? = some c ∧ n = .missingKey c.keyVariable := by
  cases hc : env.chosen? with
  | none =>
    rw [provider_of_not_chosen hc] at h
    exact .inl (Except.error.inj h).symm
  | some c =>
    rw [provider_of_chosen hc] at h
    split at h
    · exact .inr ⟨c, rfl, (Except.error.inj h).symm⟩
    · cases h

theorem bracket_notMem_providerName (h : ∀ v, env "CODEPANE_PROVIDER" = some v → '[' ∉ v.toList) :
    '[' ∉ env.providerName.toList := by
  intro hm
  have hmem := mem_of_mem_lower_trim (by decide) (by decide) hm
  cases hv : env "CODEPANE_PROVIDER" with
  | none =>
    rw [hv] at hmem
    exact absurd hmem (by decide)
  | some v =>
    rw [hv] at hmem
    exact h v hv hmem

end Environment

namespace SetupNotice

def subject : SetupNotice → String
  | unknownProvider name => name
  | missingKey key => key
  | refused detail => detail

theorem closing_red : "[/red]" = "" ++ "[/" ++ "red" ++ "]" := by decide

/-- A notice can be shown if no tag starts in what it names. -/
theorem exists_shown {t : Terminal} (hr : t.ReadsTags) {n : SetupNotice}
    (h : '[' ∉ n.subject.toList) : ∃ s, t.shown n.markup = .ok s := by
  have hred : "red" ∈ Terminal.commandStyles := by decide
  have hyellow : "yellow" ∈ Terminal.commandStyles := by decide
  cases n with
  | unknownProvider name =>
    have hopening : "[red]Error: Unknown LLM provider: " =
        "[" ++ "red" ++ "]" ++ "Error: Unknown LLM provider: " := by
      decide
    exact hr.exists_shown_between hred hopening closing_red (by decide) (by decide) h
  | missingKey key =>
    have hopening : "[yellow]Warning: " = "[" ++ "yellow" ++ "]" ++ "Warning: " := by decide
    have hclosing : " not set, chat replies disabled[/yellow]" =
        " not set, chat replies disabled" ++ "[/" ++ "yellow" ++ "]" := by decide
    exact hr.exists_shown_between hyellow hopening hclosing (by decide) (by decide) h
  | refused detail =>
    have hopening : "[red]Error: " = "[" ++ "red" ++ "]" ++ "Error: " := by decide
    exact hr.exists_shown_between hred hopening closing_red (by decide) (by decide) h

end SetupNotice

namespace Command

variable {h : Host} {env : Environment} {p : Provider}

/-- What the set-up of a provider from an environment does in any case: it returns and prints at
most, no provider is refused, there is one exactly if the environment chooses a service and has a
key for it, and it is one that is made for the name and the key. -/
structure SetsUp (env : Environment) (h : Host) : Prop where
  returns : ∀ r, ∃ lines, (setUp h).after r = (.ok h.provider.toOption, r.printing lines)
  accepted : ∀ detail, h.provider ≠ .error (.refused detail)
  isSome_iff : h.provider.toOption.isSome = true ↔
    ∃ c, env.chosen? = some c ∧ (env c.keyVariable).getD "" ≠ ""
  made : ∀ p, h.provider = .ok p → ∃ c config, env.chosen? = some c ∧ p.service = c.service ∧
    config.apiKey = env c.keyVariable ∧ Provider.make? env.providerName config = .ok p

/-- Whether a provider uses the promised model of the service that the environment chooses. -/
def UsesPromisedModel (env : Environment) (p : Provider) : Prop :=
  ∃ c, env.chosen? = some c ∧ p.model = c.model env ∧ p.model ≠ ""

theorem exists_shown_notice {t : Terminal} (hr : t.ReadsTags)
    (hb : ∀ v, env "CODEPANE_PROVIDER" = some v → '[' ∉ v.toList) {n : SetupNotice}
    (hn : env.provider = .error n) : ∃ s, t.shown n.markup = .ok s := by
  apply SetupNotice.exists_shown hr
  rcases Environment.eq_of_provider_eq_error hn with rfl | ⟨c, hc, rfl⟩
  · exact Environment.bracket_notMem_providerName hb
  · exact (ServiceChoice.of_lookup_byName hc).2

theorem setsUp (hr : h.terminal.ReadsTags) (hp : h.provider = env.provider)
    (hb : ∀ v, env "CODEPANE_PROVIDER" = some v → '[' ∉ v.toList) : SetsUp env h where
  returns r := ⟨_, after_setUp h (fun _ hn => exists_shown_notice hr hb (hp ▸ hn)) r⟩
  accepted detail hd := by
    rcases Environment.eq_of_provider_eq_error (hp ▸ hd) with he | ⟨c, -, he⟩
    · cases he
    · cases he
  isSome_iff := by
    rw [hp]
    constructor
    · intro hsome
      cases hok : env.provider with
      | ok p =>
        obtain ⟨c, hc, hkey, -⟩ := Environment.provider_eq_ok_iff.mp hok
        exact ⟨c, hc, hkey⟩
      | error n =>
        rw [hok] at hsome
        cases hsome
    · rintro ⟨c, hc, hkey⟩
      rw [Environment.provider_eq_ok_iff.mpr ⟨c, hc, hkey, rfl⟩]
      rfl
  made p hok := by
    obtain ⟨c, hc, hkey, rfl⟩ := Environment.provider_eq_ok_iff.mp (hp ▸ hok)
    refine ⟨c, ⟨env c.keyVariable, some ((env c.modelVariable).getD c.usualModel), none⟩, hc, rfl,
      rfl, ?_⟩
    exact Environment.make?_of_chosen hc hkey

theorem usesPromisedModel_iff {c : ServiceChoice} (hc : env.chosen? = some c)
    (hok : env.provider = .ok p) :
    UsesPromisedModel env p ↔ env c.modelVariable ≠ some "" := by
  obtain ⟨d, hd, -, rfl⟩ := Environment.provider_eq_ok_iff.mp hok
  obtain rfl := Option.some.inj (hc.symm.trans hd)
  rw [← ServiceChoice.getD_eq_model_iff (ServiceChoice.of_lookup_byName hc).1,
    UsesPromisedModel, hc]
  simp

/-- Whatever an environment holds, as long as no bracket is in the name of its provider, the set-up
returns on any terminal that reads tags, and it gives the provider that the name and the key stand
for. The provider uses the promised model exactly if the variable for its model is not set to the
empty text. -/
theorem setUp_from_environment (env : Environment) (h : Host) (hr : h.terminal.ReadsTags)
    (hp : h.provider = env.provider)
    (hb : ∀ v, env "CODEPANE_PROVIDER" = some v → '[' ∉ v.toList) :
    SetsUp env h ∧ ∀ p, h.provider = .ok p →
      (UsesPromisedModel env p ↔ ∀ c, env.chosen? = some c → env c.modelVariable ≠ some "") := by
  refine ⟨setsUp hr hp hb, fun p hok => ?_⟩
  obtain ⟨c, hc, -⟩ := Environment.provider_eq_ok_iff.mp (hp ▸ hok)
  rw [usesPromisedModel_iff hc (hp ▸ hok), hc]
  simp

def hostOf (env : Environment) : Host where
  file? _ := none
  input := ""
  provider := env.provider
  client _ := .ok .null

theorem provider_hostOf (env : Environment) : (hostOf env).provider = env.provider := by rw [hostOf]

theorem readsTags_hostOf (env : Environment) : (hostOf env).terminal.ReadsTags := by
  rw [hostOf]
  exact Terminal.readsTags_standard

/-- An environment with a provider and its key. The name has a capital and blanks around it. -/
def claudeVariables : Environment
  | "CODEPANE_PROVIDER" => some " Claude "
  | "ANTHROPIC_API_KEY" => some "k"
  | _ => none

theorem setUp_from_environment_claude :
    (hostOf claudeVariables).terminal.ReadsTags ∧
      (hostOf claudeVariables).provider = claudeVariables.provider ∧
      (∀ v, claudeVariables "CODEPANE_PROVIDER" = some v → '[' ∉ v.toList) ∧
      SetsUp claudeVariables (hostOf claudeVariables) ∧
      claudeVariables.provider = .ok ⟨.anthropic, "claude-sonnet-4-20250514"⟩ ∧
      UsesPromisedModel claudeVariables ⟨.anthropic, "claude-sonnet-4-20250514"⟩ := by
  have hb : ∀ v, claudeVariables "CODEPANE_PROVIDER" = some v → '[' ∉ v.toList := by
    intro v hv
    obtain rfl : " Claude " = v := Option.some.inj hv
    decide
  have hname : claudeVariables.providerName = "claude" := by decide
  have hchosen : claudeVariables.chosen? = some .anthropic := by
    rw [Environment.chosen?, hname]
    rfl
  have hok : claudeVariables.provider = .ok ⟨.anthropic, "claude-sonnet-4-20250514"⟩ :=
    Environment.provider_eq_ok_iff.mpr ⟨_, hchosen, by decide, rfl⟩
  obtain ⟨hsets, hmodel⟩ := setUp_from_environment claudeVariables (hostOf claudeVariables)
    (readsTags_hostOf _) (provider_hostOf _) hb
  refine ⟨readsTags_hostOf _, provider_hostOf _, hb, hsets, hok, (hmodel _ hok).mpr fun c hc => ?_⟩
  obtain rfl := Option.some.inj (hchosen.symm.trans hc)
  decide

def emptyModelVariables : Environment
  | "OPENAI_API_KEY" => some "k"
  | "OPENAI_CHAT_MODEL" => some ""
  | _ => none

/-- A variable that is set to nothing takes the place of the usual model. -/
theorem not_usesPromisedModel_empty : emptyModelVariables.provider = .ok ⟨.openAI, ""⟩ ∧
    emptyModelVariables.chosen? = some .openAI ∧
    ServiceChoice.openAI.model emptyModelVariables = "gpt-4o-mini" ∧
    ¬ UsesPromisedModel emptyModelVariables ⟨.openAI, ""⟩ := by
  have hname : emptyModelVariables.providerName = "openai" := by decide
  have hchosen : emptyModelVariables.chosen? = some .openAI := by
    rw [Environment.chosen?, hname]
    rfl
  have hok : emptyModelVariables.provider = .ok ⟨.openAI, ""⟩ :=
    Environment.provider_eq_ok_iff.mpr ⟨_, hchosen, by decide, rfl⟩
  exact ⟨hok, hchosen, by decide, fun ⟨_, _, _, hne⟩ => hne rfl⟩

end Command

end FencedChat
