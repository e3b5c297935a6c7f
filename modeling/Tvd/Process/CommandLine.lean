import Tvd.Model.CommandLine

/-! What a command line says. Options are read up to the first one that is not an address,
an operand, or the end: addresses replace each other, an option that asks for help ends
the program with success, and anything else ends it with failure. -/

namespace Tvd

/-- The command line starts with options for these addresses, and the rest is behind them. -/
inductive Addresses : List CString → List CString → List CString → Prop
  | done (rest : List CString) : Addresses rest [] rest
  | joined {element name : CString} {argv names rest : List CString}
      (helement : element.val = dash :: optA :: name.val) (hname : name.val ≠ [])
      (hargv : Addresses argv names rest) : Addresses (element :: argv) (name :: names) rest
  | separate {element name : CString} {argv names rest : List CString} (helement : element.val = [dash, optA])
      (hname : name.val ≠ []) (hargv : Addresses argv names rest) :
      Addresses (element :: name :: argv) (name :: names) rest

/-- No option follows. -/
def EndsOptions (rest : List CString) : Prop := ∀ element ∈ rest.head?, CString.endsOptions element = true

/-- The next option asks for help. -/
def AsksHelp (rest : List CString) : Prop := ∃ element ∈ rest.head?, ∃ chars, element.val = dash :: optH :: chars

/-- The last of these addresses, or the one that was there before. -/
def Options.named (options : Options) (names : List CString) : Options := names.foldl (fun _ name => ⟨name⟩) options

section

variable {element name : CString} {argv names rest : List CString} {options : Options}

/-! ### One option -/

theorem getopt_ends (h : CString.endsOptions element = true) : getopt (element :: argv) = [] := by
  cases argv <;> rw [getopt, if_pos h]

theorem getopt_cons (h : ¬CString.endsOptions element = true) : getopt (element :: argv) =
    (getoptElement argv.head? element.val.tail (CString.tail_noNul element)).1 ++
      if (getoptElement argv.head? element.val.tail (CString.tail_noNul element)).2 then getopt argv.tail
      else getopt argv := by
  cases argv with
  | nil => simp [getopt, h]
  | cons next argv =>
    rw [getopt, if_neg h]
    rfl

theorem not_endsOptions {c : UInt8} {chars : List UInt8} (h : element.val = dash :: c :: chars)
    (hc : c ≠ dash ∨ chars ≠ []) : ¬CString.endsOptions element = true := by
  unfold CString.endsOptions
  rw [h, decide_eq_true_eq]
  simp only [List.head?_cons, ne_eq, not_true_eq_false, List.cons.injEq, reduceCtorEq, and_false, true_and, false_or]
  rintro ⟨rfl, rfl⟩
  exact hc.elim (absurd rfl) (absurd rfl)

/-- An element that does not end the options is a dash and a character. -/
theorem exists_option (h : ¬CString.endsOptions element = true) :
    ∃ c chars, element.val = dash :: c :: chars := by
  unfold CString.endsOptions at h
  rw [decide_eq_true_eq, not_or, not_not, not_or] at h
  obtain ⟨hhead, hlone, -⟩ := h
  match hval : element.val with
  | [] =>
    rw [hval] at hhead
    cases hhead
  | [c] =>
    rw [hval] at hhead hlone
    cases hhead
    exact absurd rfl hlone
  | c :: c' :: chars =>
    rw [hval] at hhead
    cases hhead
    exact ⟨c', chars, rfl⟩

theorem strlen_ne_zero (hname : name.val ≠ []) : name.strlen ≠ 0 :=
  fun h => hname (List.length_eq_zero_iff.mp h)

theorem parseOpts_ends (h : CString.endsOptions element = true) :
    parseOpts (element :: argv) options = (0, options) := by
  rw [parseOpts, getopt_ends h]
  rfl

theorem parseOpts_joined (helement : element.val = dash :: optA :: name.val) (hname : name.val ≠ []) :
    parseOpts (element :: argv) options = parseOpts argv ⟨name⟩ := by
  have hlen := strlen_ne_zero hname
  obtain ⟨chars, hchars⟩ := element
  dsimp only at helement
  subst helement
  rw [parseOpts, getopt_cons (not_endsOptions rfl (.inl (by decide)))]
  simp [getoptElement, hname, parseAnswers, parseOpt, parseOptA, hlen, optA, questionMark, parseOpts]

/-- A lone `-a` takes the next element, whatever it is. -/
theorem parseOpts_separate (helement : element.val = [dash, optA]) : parseOpts (element :: name :: argv) options =
    if name.strlen = 0 then (-1, options) else parseOpts argv ⟨name⟩ := by
  obtain ⟨chars, hchars⟩ := element
  dsimp only at helement
  subst helement
  rw [parseOpts, getopt_cons (not_endsOptions rfl (.inl (by decide)))]
  by_cases hlen : name.strlen = 0
  · simp [getoptElement, parseAnswers, parseOpt, parseOptA, hlen, optA, questionMark]
  · simp [getoptElement, parseAnswers, parseOpt, parseOptA, hlen, optA, questionMark, parseOpts]

theorem parseOpts_alone (helement : element.val = [dash, optA]) : parseOpts [element] options = (-1, options) := by
  obtain ⟨chars, hchars⟩ := element
  dsimp only at helement
  subst helement
  rw [parseOpts, getopt_cons (not_endsOptions rfl (.inl (by decide)))]
  rfl

/-- Any other option ends the program. -/
theorem parseOpts_other {c : UInt8} {chars : List UInt8} (helement : element.val = dash :: c :: chars)
    (hends : ¬CString.endsOptions element = true) (hc : c ≠ optA) : parseOpts (element :: argv) options =
    (if c = optH then 1 else -1, options) := by
  obtain ⟨val, hval⟩ := element
  dsimp only at helement
  subst helement
  rw [parseOpts, getopt_cons hends]
  by_cases hhelp : c = optH
  · simp [getoptElement, hhelp, parseAnswers, parseOpt, parseOptH, optA, optH, questionMark]
  · simp [getoptElement, hc, hhelp, parseAnswers, parseOpt, parseOptQuestionMark]

/-! ### Every command line -/

theorem parseOpts_addresses (h : Addresses argv names rest) : ∀ options,
    parseOpts argv options = parseOpts rest (options.named names) := by
  induction h with
  | done rest => exact fun _ => rfl
  | joined helement hname _ ih =>
    intro options
    rw [parseOpts_joined helement hname, ih]
    rfl
  | separate helement hname _ ih =>
    intro options
    rw [parseOpts_separate helement, if_neg (strlen_ne_zero hname), ih]
    rfl

theorem parseOpts_of_ends (h : EndsOptions rest) : parseOpts rest options = (0, options) := by
  cases rest with
  | nil => rfl
  | cons element argv => exact parseOpts_ends (h element rfl)

theorem parseOpts_of_help (h : AsksHelp rest) : parseOpts rest options = (1, options) := by
  obtain ⟨element, hmem, chars, helement⟩ := h
  cases rest with
  | nil => cases hmem
  | cons element argv =>
    cases hmem
    exact parseOpts_other helement (not_endsOptions helement (.inl (by decide))) (by decide)

/-- Behind all addresses are the end, an option that asks for help, or one that is wrong. -/
def Ending (options : Options) (argv : List CString) : Prop := ∃ names rest, Addresses argv names rest ∧
  (EndsOptions rest ∨ AsksHelp rest ∨ (parseOpts rest (options.named names)).1 = -1)

theorem ending_of_rest (h : EndsOptions argv ∨ AsksHelp argv ∨ (parseOpts argv options).1 = -1) :
    Ending options argv := ⟨[], argv, .done argv, h⟩

theorem ending_joined (helement : element.val = dash :: optA :: name.val) (hname : name.val ≠ [])
    (h : Ending ⟨name⟩ argv) : Ending options (element :: argv) := by
  obtain ⟨names, rest, hargv, hrest⟩ := h
  exact ⟨name :: names, rest, .joined helement hname hargv, hrest⟩

theorem ending_separate (helement : element.val = [dash, optA]) (hname : name.val ≠ [])
    (h : Ending ⟨name⟩ argv) : Ending options (element :: name :: argv) := by
  obtain ⟨names, rest, hargv, hrest⟩ := h
  exact ⟨name :: names, rest, .separate helement hname hargv, hrest⟩

theorem ending (options : Options) : ∀ argv, Ending options argv
  | [] => ending_of_rest (.inl nofun)
  | element :: argv => by
    by_cases hends : CString.endsOptions element = true
    · exact ending_of_rest (.inl fun _ h => by cases h; exact hends)
    obtain ⟨c, chars, helement⟩ := exists_option hends
    by_cases hc : c = optA
    · subst hc
      by_cases hchars : chars = []
      · subst hchars
        match argv with
        | [] => exact ending_of_rest (.inr (.inr (congrArg Prod.fst (parseOpts_alone helement))))
        | next :: argv =>
          by_cases hnext : next.val = []
          · have hlen : CString.strlen next = 0 := List.length_eq_zero_iff.mpr hnext
            refine ending_of_rest (.inr (.inr ?_))
            rw [parseOpts_separate helement, if_pos hlen]
          · exact ending_separate helement hnext (ending ⟨next⟩ argv)
      · have hnoNul : (0 : UInt8) ∉ chars := fun h => element.property (by rw [helement]; simp [h])
        have hargv := ending ⟨⟨chars, hnoNul⟩⟩ argv
        exact ending_joined helement hchars hargv
    by_cases hhelp : c = optH
    · exact ending_of_rest (.inr (.inl ⟨element, rfl, chars, hhelp ▸ helement⟩))
    · refine ending_of_rest (.inr (.inr ?_))
      rw [parseOpts_other helement hends hc, if_neg hhelp]

/-- What every command line does: it is accepted if its options are addresses up to the
end, and the last one counts; it asks for help if that is the first option that is no
address; and it is refused otherwise. -/
theorem parseOpts_result (argv : List CString) (options : Options) :
    (∀ options', parseOpts argv options = (0, options') ↔
      ∃ names rest, Addresses argv names rest ∧ EndsOptions rest ∧ options' = options.named names) ∧
    ((parseOpts argv options).1 = 1 ↔ ∃ names rest, Addresses argv names rest ∧ AsksHelp rest) ∧
    ((parseOpts argv options).1 = 0 ∨ (parseOpts argv options).1 = 1 ∨ (parseOpts argv options).1 = -1) := by
  have hends {names rest : List CString} (hargv : Addresses argv names rest) (h : EndsOptions rest) :
      parseOpts argv options = (0, options.named names) := (parseOpts_addresses hargv _).trans (parseOpts_of_ends h)
  have hhelp {names rest : List CString} (hargv : Addresses argv names rest) (h : AsksHelp rest) :
      parseOpts argv options = (1, options.named names) := (parseOpts_addresses hargv _).trans (parseOpts_of_help h)
  obtain ⟨names, rest, hargv, hrest⟩ := ending options argv
  rw [← parseOpts_addresses hargv] at hrest
  refine ⟨fun options' => ⟨fun h => ?_, ?_⟩, ⟨fun h => ?_, ?_⟩, ?_⟩
  · rcases hrest with hrest | hrest | hrest
    · exact ⟨names, rest, hargv, hrest, congrArg Prod.snd (h.symm.trans (hends hargv hrest))⟩
    · cases (congrArg Prod.fst (h.symm.trans (hhelp hargv hrest)) : (0 : Int32) = 1)
    · cases (congrArg Prod.fst h.symm).trans hrest
  · rintro ⟨names, rest, hargv, hrest, rfl⟩
    exact hends hargv hrest
  · rcases hrest with hrest | hrest | hrest
    · cases h.symm.trans (congrArg Prod.fst (hends hargv hrest))
    · exact ⟨names, rest, hargv, hrest⟩
    · cases h.symm.trans hrest
  · rintro ⟨names, rest, hargv, hrest⟩
    rw [hhelp hargv hrest]
  · rcases hrest with hrest | hrest | hrest
    · exact .inl (congrArg Prod.fst (hends hargv hrest))
    · exact .inr (.inl (congrArg Prod.fst (hhelp hargv hrest)))
    · exact .inr (.inr hrest)

/-- An address is no longer than the element it is from. -/
theorem Addresses.strlen_le (h : Addresses argv names rest) :
    ∀ name ∈ names, ∃ arg ∈ argv, name.strlen ≤ arg.strlen := by
  induction h with
  | done => exact nofun
  | joined helement _ _ ih =>
    intro name hname
    rcases List.mem_cons.mp hname with rfl | hname
    · refine ⟨_, List.mem_cons_self, ?_⟩
      rw [CString.strlen, CString.strlen, helement]
      exact (Nat.le_succ _).trans (Nat.le_succ _)
    · obtain ⟨arg, harg, hle⟩ := ih name hname
      exact ⟨arg, List.mem_cons_of_mem _ harg, hle⟩
  | separate _ _ _ ih =>
    intro name hname
    rcases List.mem_cons.mp hname with rfl | hname
    · exact ⟨_, List.mem_cons_of_mem _ List.mem_cons_self, le_rfl⟩
    · obtain ⟨arg, harg, hle⟩ := ih name hname
      exact ⟨arg, List.mem_cons_of_mem _ (List.mem_cons_of_mem _ harg), hle⟩

end

end Tvd
