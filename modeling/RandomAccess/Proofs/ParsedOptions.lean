import RandomAccess.CommandLine.Options
import RandomAccess.Proofs.NumeralValues
import RandomAccess.Proofs.OperandCells

/-! The step limit of options that arguments stand for. An argument spells out a number within the digit limit, so
whatever the arguments are, the limit can be written again. -/

namespace RandomAccess

theorem Count.parse?_representable {text : Text} {n : Int} (parsed : parse? text = some n) : Numeral.Representable n := by
  simp only [parse?, Option.bind_eq_bind, Option.bind_eq_some_iff] at parsed
  obtain ⟨digits, _, parsed⟩ := parsed
  split at parsed
  · cases parsed
  next short =>
    cases parsed
    rw [Numeral.Representable, Numeral.natAbs_signed, Numeral.bound_eq]
    exact Nat.lt_of_lt_of_le (Digit.number_lt digits) (Nat.pow_le_pow_right (by decide) (Nat.not_lt.mp short))

namespace Options

/-- A step limit that an argument can spell out. -/
def Spelled (options : Options) : Prop :=
  Numeral.Representable options.maxSteps

variable {options final : Options}

theorem spelled_default : ({} : Options).Spelled := by
  unfold Spelled
  decide +kernel

theorem Spelled.switchOn (spelled : options.Spelled) {switch : Switch} (done : options.switchOn switch = .ok final) :
    final.Spelled := by
  cases switch <;> cases done <;> exact spelled

theorem Spelled.switchAll {switches : List Switch} (spelled : options.Spelled)
    (done : switches.foldlM Options.switchOn options = .ok final) : final.Spelled := by
  induction switches generalizing options with
  | nil =>
    cases done
    exact spelled
  | cons switch rest ih =>
    rw [List.foldlM_cons, bind_eq_ok] at done
    obtain ⟨next, first, later⟩ := done
    exact ih (spelled.switchOn first) later

theorem Spelled.clear (spelled : options.Spelled) (setting : Setting) : (options.clear setting).Spelled := by
  cases setting with
  | maxSteps => exact (by decide +kernel : Numeral.Representable 0)
  | program | inline | input => exact spelled

theorem Spelled.set (spelled : options.Spelled) {setting : Setting} {value : Text}
    (done : options.set setting value = .ok final) : final.Spelled := by
  unfold Options.set at done
  split at done
  · cases done
    exact spelled.clear setting
  · cases setting with
    | maxSteps =>
      dsimp only at done
      split at done
      next maxSteps parsed =>
        cases done
        exact Count.parse?_representable parsed
      next => cases done
    | program | inline | input =>
      cases done
      exact spelled

theorem Spelled.apply (spelled : options.Spelled) {switches : List Switch} {setting : Setting} {value : Text}
    (done : options.apply switches setting value = .ok final) : final.Spelled := by
  obtain ⟨next, switched, done⟩ := bind_eq_ok.mp done
  exact (spelled.switchAll switched).set done

theorem Spelled.collect {arguments : List Argument} (spelled : options.Spelled) {stray : Bool}
    (done : options.collect stray arguments = .ok final) : final.Spelled := by
  fun_induction Options.collect options stray arguments with
  | case1 | case6 | case10 => cases done
  | case2 =>
    cases done
    exact spelled
  | case3 _ _ _ _ ih | case4 _ _ _ ih | case5 _ _ _ ih => exact ih spelled done
  | case7 _ _ _ _ _ _ _ _ _ ih =>
    obtain ⟨next, switched, later⟩ := bind_eq_ok.mp done
    exact ih next (spelled.switchAll switched) later
  | case8 _ _ _ _ _ _ _ _ _ _ _ ih =>
    obtain ⟨next, applied, later⟩ := bind_eq_ok.mp done
    exact ih next (spelled.apply applied) later
  | case9 _ _ _ _ _ _ _ _ _ _ _ ih =>
    obtain ⟨next, applied, later⟩ := bind_eq_ok.mp done
    exact ih next (spelled.apply applied) later

theorem parse_spelled {arguments : List Text} (parsed : parse arguments = .ok options) : options.Spelled := by
  unfold parse at parsed
  split at parsed
  · cases parsed
  · obtain ⟨collected, done, parsed⟩ := bind_eq_ok.mp parsed
    split at parsed <;> cases parsed
    exact spelled_default.collect done

end Options
end RandomAccess
