import PropertyFiles.Command.Basic
import PropertyFiles.Path
/-!
# Words that spell a command

Every kind and project can be named with every command, and every key and value can be its argument:
behind the end of the options no word is taken for one. A listing can be asked for with any merges, any
pattern and any beginning of its keys.
-/
namespace PropertyFiles

def Format.word : Format → String
  | .plain => "text"
  | .json => "json"
  | .yaml => "yaml"

@[simp] theorem Format.ofWord?_word (format : Format) : Format.ofWord? format.word = some format := by
  cases format <;> rfl

namespace Command

@[simp] theorem arguments_withOption (words : Words) (name value : String) :
    (words.withOption name value).arguments = words.arguments := rfl

@[simp] theorem values_withOption (words : Words) (name value option : String) :
    (words.withOption name value).values option =
      if name = option then value :: words.values option else words.values option := by
  simp only [Words.values, Words.withOption, List.filter_cons, beq_iff_eq]
  split <;> rfl

private theorem sortWords_value {table : List (String × Arity)} {option value : String}
    {rest : List RawText} {words : Words} (hoption : isOption option ∧ option ≠ "--")
    (hsplit : splitOption option = (option, none)) (htable : table.lookup option = some .value)
    (hrest : sortWords table rest = .ok words) :
    sortWords table (option :: value :: rest) = .ok (words.withOption option value) := by
  rw [sortWords, RawText.shown_ofString, if_neg hoption.2, if_neg (by simp [hoption.1]), hsplit]
  simp only [htable, hrest, RawText.shown_ofString]
  rfl

/-- An option given once for each of some values. -/
def optionWords (option : String) (values : List String) : List RawText :=
  values.flatMap fun (value : String) => [option, value]

def Words.withOptions (words : Words) (option : String) (values : List String) : Words :=
  values.foldr (fun value words => words.withOption option value) words

@[simp] theorem arguments_withOptions (words : Words) (option : String) (values : List String) :
    (words.withOptions option values).arguments = words.arguments := by
  induction values with
  | nil => rfl
  | cons value rest ih => exact ih

@[simp] theorem values_withOptions (words : Words) (name option : String) (values : List String) :
    (words.withOptions name values).values option =
      if name = option then values ++ words.values option else words.values option := by
  induction values with
  | nil => simp [Words.withOptions]
  | cons value rest ih =>
    rw [Words.withOptions, List.foldr_cons, values_withOption]
    change (if name = option then value :: (words.withOptions name rest).values option
      else (words.withOptions name rest).values option) = _
    rw [ih]
    split <;> rfl

private theorem sortWords_values {table : List (String × Arity)} {option : String} {rest : List RawText}
    {words : Words} (hoption : isOption option ∧ option ≠ "--")
    (hsplit : splitOption option = (option, none)) (htable : table.lookup option = some .value)
    (hrest : sortWords table rest = .ok words) (values : List String) :
    sortWords table (optionWords option values ++ rest) = .ok (words.withOptions option values) := by
  induction values with
  | nil => exact hrest
  | cons value values ih => exact sortWords_value hoption hsplit htable ih

/-- A command behind the words that name its file, if its own words name no other. -/
private theorem parse_file {name : String} {verb : Verb} {rest : List RawText} {command : Command}
    (kind : Kind) (project : String) (words : Words)
    (hname : isOption name = false ∧ asksForNotices name = false ∧ name ≠ "--" ∧ name ≠ "--help")
    (hverb : Verb.ofWord? name = some verb) (hrest : sortWords verb.options rest = .ok words)
    (hhelp : words.values "--help" = []) (htype : words.values "--type" = [])
    (hproject : words.values "--project" = [])
    (hcommand : ofWords verb
      ((words.withOption "--project" project).withOption "--type" kind.word) = .ok command) :
    parse (name :: "--type" :: kind.word :: "--project" :: project :: rest) =
      .ok ⟨false, kind, project, command⟩ := by
  obtain ⟨hoption, hnotices, hend, hnohelp⟩ := hname
  have hleading (more : List RawText) :
      splitLeading (name :: more) = .ok { rest := name :: more } := by
    rw [splitLeading, RawText.shown_ofString, if_neg hend, if_neg (by simp [hnotices]),
      if_neg hnohelp, if_neg (by simp [hoption])]
  have hsorted : sortWords verb.options
      ("--type" :: kind.word :: "--project" :: project :: rest) =
        .ok ((words.withOption "--project" project).withOption "--type" kind.word) := by
    refine sortWords_value ⟨by decide, by decide⟩ (by decide) rfl ?_
    exact sortWords_value ⟨by decide, by decide⟩ (by decide) rfl hrest
  have hkind : choice ((words.withOption "--project" project).withOption "--type" kind.word)
      "--type" Kind.ofWord? verb.defaultKind = .ok kind := by
    simp [choice, htype]
  have hnone : ((words.withOption "--project" project).withOption "--type" kind.word).values
      "--help" = [] := by
    simp [hhelp]
  unfold parse
  rw [hleading]
  simp only [RawText.shown_ofString, hverb, hsorted, hnone, hkind, hcommand, values_withOption,
    hproject, bind, Except.bind, pure, Except.pure]
  rfl

/-- Words that spell a command on the file of a kind; the project may be spelled in any way. -/
def Spells (words : List RawText) (project : String) (kind : Kind) (command : Command) : Prop :=
  ∃ verbose spelling, parse words = .ok ⟨verbose, kind, spelling, command⟩ ∧
    Path.ofString spelling = Path.ofString project

section Spelling
variable (project : String) (kind : Kind)

theorem spells_configurations :
    Spells ["apk-configs", "--type", kind.word, "--project", project] project kind
      .configurations :=
  ⟨false, project, parse_file kind project {} (by decide) rfl rfl rfl rfl rfl rfl, rfl⟩

/-- The words that ask for a listing. An empty pattern or beginning is the same as none. -/
def listWords (merges : List Kind) (pattern leading : Option String) (format : Format) :
    List RawText :=
  "show" :: "--type" :: kind.word :: "--project" :: project ::
    (optionWords "--merge" (merges.map Kind.word) ++ (optionWords "--include" pattern.toList ++
      (optionWords "--prefix" leading.toList ++ [("--format" : RawText), ↑format.word])))

private theorem choices_map_word {words : Words} {option : String} {kinds : List Kind}
    (h : words.values option = kinds.map Kind.word) :
    choices words option Kind.ofWord? = .ok kinds := by
  rw [choices, h]
  clear h
  induction kinds with
  | nil => rfl
  | cons kind rest ih =>
    rw [List.map_cons, List.mapM_cons, ih, Kind.ofWord?_word]
    rfl

private theorem lastText?_toList {words : Words} {option : String} {text : Option String}
    (h : words.values option = text.toList) : lastText? words option = text.filter (· ≠ "") := by
  rw [lastText?, h]
  cases text <;> rfl

theorem spells_list (merges : List Kind) (pattern leading : Option String) (format : Format) :
    Spells (listWords project kind merges pattern leading format) project kind
      (.list merges (pattern.filter (· ≠ "")) (leading.filter (· ≠ "")) format) := by
  let words := ((((({} : Words).withOption "--format" format.word).withOptions "--prefix"
    leading.toList).withOptions "--include" pattern.toList).withOptions "--merge"
      (merges.map Kind.word))
  have hsorted : sortWords Verb.list.options (optionWords "--merge" (merges.map Kind.word) ++
      (optionWords "--include" pattern.toList ++ (optionWords "--prefix" leading.toList ++
        [("--format" : RawText), ↑format.word]))) = .ok words := by
    apply sortWords_values ⟨by decide, by decide⟩ (by decide) rfl
    apply sortWords_values ⟨by decide, by decide⟩ (by decide) rfl
    apply sortWords_values ⟨by decide, by decide⟩ (by decide) rfl
    exact sortWords_value ⟨by decide, by decide⟩ (by decide) rfl rfl
  let all := (words.withOption "--project" project).withOption "--type" kind.word
  have hnone (option : String) : ({} : Words).values option = [] := rfl
  have harguments : all.arguments = [] := by simp [all, words]
  have hmerges : choices all "--merge" Kind.ofWord? = .ok merges :=
    choices_map_word (by simp [all, words, hnone])
  have hpattern : lastText? all "--include" = pattern.filter (· ≠ "") :=
    lastText?_toList (by simp [all, words, hnone])
  have hleading : lastText? all "--prefix" = leading.filter (· ≠ "") :=
    lastText?_toList (by simp [all, words, hnone])
  have hformat : choice all "--format" Format.ofWord? .plain = .ok format := by
    simp [choice, all, words, hnone]
  refine ⟨false, project, parse_file kind project words (by decide) rfl hsorted ?_ ?_ ?_ ?_, rfl⟩
  · simp [words, hnone]
  · simp [words, hnone]
  · simp [words, hnone]
  · change ofWords .list all = _
    unfold ofWords
    rw [harguments]
    simp only [hmerges, hpattern, hleading, hformat]
    rfl

end Spelling

end Command
end PropertyFiles
