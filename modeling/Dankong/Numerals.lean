import Mathlib.Data.Int.Log
import Mathlib.Data.List.TakeWhile
import Mathlib.Data.Rat.Floor
import Mathlib.Tactic.Linarith
import Mathlib.Tactic.NormNum

/-!
# Reading numbers from text

`std::stoi` and `std::stod` as their documentation describes them: leading white
space and a sign are skipped, the longest prefix of the expected form is read,
and the rest is returned. `none` stands for an exception. Doubles are rational
numbers that rounding leaves alone, or not finite.
-/

namespace Dankong.Numerals

/-- A double. -/
inductive Double
  /-- A finite number. -/
  | finite (x : ℚ)
  /-- An infinity. -/
  | infinite (negative : Bool)
  /-- Not a number. -/
  | nan
  deriving DecidableEq

/-- `isspace` in the default locale. -/
def isSpace (c : Char) : Bool :=
  c== ' ' || c== '\t' || c== '\n' || c== '\r' || c.toNat==11 || c.toNat==12

/-- Skip leading white space. -/
def skipSpace (cs : List Char) : List Char := cs.dropWhile isSpace

/-- Whether a minus sign comes first, and what follows the sign. -/
def splitSign : List Char → Bool×List Char
  | '-'::cs => (true,cs)
  | '+'::cs => (false,cs)
  | cs => (false,cs)

/-- A number with a sign. -/
def withSign {R : Type*} [Neg R] (negative : Bool) (x : R) : R :=
  if negative=true then -x else x

/-- `std::stoi`. -/
def stoi (cs : List Char) : Option (ℤ×List Char) :=
  let body := splitSign (skipSpace cs)
  let digits := body.2.takeWhile Char.isDigit
  let n := withSign body.1 (Nat.ofDigitChars 10 digits 0 : ℤ)
  if digits=[] then none
  else if -2^31≤n ∧ n<2^31 then some (n,body.2.dropWhile Char.isDigit) else none

/-- The nearest integer, halves going to the even neighbour. -/
def nearestEven (x : ℚ) : ℤ :=
  if x-⌊x⌋<1/2 then ⌊x⌋
  else if 1/2<x-⌊x⌋ then ⌊x⌋+1
  else if Even ⌊x⌋ then ⌊x⌋ else ⌊x⌋+1

/-- Rounding to double precision. A result that is too large is out of range, and so is one
that is not exact if the number was below the smallest normal one. That a number is judged
before it is rounded is what arm64 does; the standard leaves it open. -/
def toDouble (x : ℚ) : Option ℚ :=
  if x=0 then some 0
  else
    let quantum : ℚ := 2^max (Int.log 2 |x|-52) (-1074)
    let y := nearestEven (x/quantum)*quantum
    if 2^1024≤|y| ∨ |x|<(2 : ℚ)^(-1022 : ℤ) ∧ y≠x then none else some y

/-- Digits with an optional point: all digits, how many follow the point, and
the rest; `none` without a digit. -/
def mantissa (isDigit : Char → Bool) (cs : List Char) : Option (List Char×ℕ×List Char) :=
  let whole := cs.takeWhile isDigit
  let tail := match cs.dropWhile isDigit with
    | '.'::rest => (rest.takeWhile isDigit,rest.dropWhile isDigit)
    | rest => ([],rest)
  if whole++tail.1=[] then none else some (whole++tail.1,tail.1.length,tail.2)

/-- An exponent after its marker; without digits it is not part of the number. -/
def exponent (marker : Char) (cs : List Char) : ℤ×List Char :=
  match cs with
  | c::rest =>
    let body := splitSign rest
    let digits := body.2.takeWhile Char.isDigit
    if c.toLower=marker ∧ digits≠[] then
      (withSign body.1 (Nat.ofDigitChars 10 digits 0 : ℤ),body.2.dropWhile Char.isDigit)
    else (0,cs)
  | [] => (0,[])

/-- A decimal magnitude and the rest. -/
def decimal (cs : List Char) : Option (ℚ×List Char) :=
  (mantissa Char.isDigit cs).map fun m =>
    let e := exponent 'e' m.2.2
    (Nat.ofDigitChars 10 m.1 0*10^(e.1-m.2.1),e.2)

/-- Value of a hexadecimal digit. -/
def hexValue (c : Char) : ℕ :=
  if c.isDigit=true then c.toNat- '0'.toNat else c.toLower.toNat- 'a'.toNat+10

/-- Whether a character is a hexadecimal digit. -/
def isHexDigit (c : Char) : Bool := c.isDigit || ('a' ≤ c.toLower && c.toLower ≤ 'f')

/-- A hexadecimal magnitude after its prefix, and the rest. -/
def hexadecimal (cs : List Char) : Option (ℚ×List Char) :=
  (mantissa isHexDigit cs).map fun m =>
    let e := exponent 'p' m.2.2
    ((m.1.foldl (fun n c => 16*n+hexValue c) 0 : ℕ)*2^(e.1-4*m.2.1),e.2)

/-- A magnitude: hexadecimal after a prefix that digits follow, else decimal. -/
def magnitude (cs : List Char) : Option (ℚ×List Char) :=
  match cs with
  | '0'::c::rest => if c.toLower= 'x' then (hexadecimal rest).or (decimal cs) else decimal cs
  | _ => decimal cs

/-- What follows a word, in either case of letters. -/
def stripWord : List Char → List Char → Option (List Char)
  | [],cs => some cs
  | w::word,c::cs => if c.toLower=w then stripWord word cs else none
  | _::_,[] => none

/-- What follows the optional parenthesis of a named not-a-number. -/
def skipNanTail (cs : List Char) : List Char :=
  match cs with
  | '('::rest => match rest.dropWhile (fun c => c.isAlphanum || c== '_') with
    | ')'::after => after
    | _ => cs
  | _ => cs

/-- A named double and the rest. -/
def named (negative : Bool) (cs : List Char) : Option (Double×List Char) :=
  match stripWord "infinity".toList cs with
  | some rest => some (.infinite negative,rest)
  | none => match stripWord "inf".toList cs with
    | some rest => some (.infinite negative,rest)
    | none => (stripWord "nan".toList cs).map fun rest => (.nan,skipNanTail rest)

/-- `std::stod`. -/
def stod (cs : List Char) : Option (Double×List Char) :=
  let body := splitSign (skipSpace cs)
  match named body.1 body.2 with
  | some result => some result
  | none => match magnitude body.2 with
    | none => none
    | some (x,rest) => (toDouble (withSign body.1 x)).map fun y => (.finite y,rest)

/-- `strict_stoi`: nothing may follow the number. -/
def strictStoi (s : String) : Option ℤ :=
  match stoi s.toList with
  | some (n,[]) => some n
  | _ => none

/-- `strict_stod`: nothing may follow the number. -/
def strictStod (s : String) : Option Double :=
  match stod s.toList with
  | some (x,[]) => some x
  | _ => none

/-- Integers are their own nearest integer. -/
theorem nearestEven_intCast (n : ℤ) : nearestEven (n : ℚ)=n := by
  dsimp only [nearestEven]
  rw [Int.floor_intCast,sub_self,if_pos (by norm_num)]

/-- The nearest integer is the one below or the one above. -/
theorem nearestEven_cases (x : ℚ) : nearestEven x=⌊x⌋ ∧ x-⌊x⌋≤1/2 ∧ (x-⌊x⌋=1/2 → Even ⌊x⌋) ∨
    nearestEven x=⌊x⌋+1 ∧ 1/2≤x-⌊x⌋ := by
  dsimp only [nearestEven]
  by_cases hbelow : x-⌊x⌋<1/2
  · rw [if_pos hbelow]
    exact Or.inl ⟨rfl,hbelow.le,fun heq => absurd heq hbelow.ne⟩
  · rw [if_neg hbelow]
    by_cases habove : 1/2<x-⌊x⌋
    · rw [if_pos habove]
      exact Or.inr ⟨rfl,habove.le⟩
    · rw [if_neg habove]
      by_cases heven : Even ⌊x⌋
      · rw [if_pos heven]
        exact Or.inl ⟨rfl,not_lt.mp habove,fun _ => heven⟩
      · rw [if_neg heven]
        exact Or.inr ⟨rfl,not_lt.mp hbelow⟩

/-- Rounding changes a number by at most one half. -/
theorem abs_nearestEven_sub_le (x : ℚ) : |(nearestEven x : ℚ)-x|≤1/2 := by
  have hfloor := Int.floor_le x
  have hnext := Int.lt_floor_add_one x
  rw [abs_le]
  rcases nearestEven_cases x with ⟨hround,hclose,_⟩|⟨hround,hclose⟩
  · rw [hround]
    constructor <;> linarith
  · rw [hround]
    push_cast
    constructor <;> linarith

/-- A number rounds to less than an even one exactly if it is more than one half away. -/
theorem nearestEven_lt_iff {n : ℤ} (hn : Even n) (x : ℚ) :
    nearestEven x<n ↔ x<n-1/2 := by
  have hfloor := Int.floor_le x
  have hnext := Int.lt_floor_add_one x
  rcases nearestEven_cases x with ⟨hround,hclose,heven⟩|⟨hround,hclose⟩
  · rw [hround]
    constructor
    · intro hlt
      have hle : (⌊x⌋ : ℚ)+1≤n := by exact_mod_cast hlt
      rcases hle.eq_or_lt with hprev|hless
      · refine lt_of_le_of_ne (by linarith) fun heq => ?_
        have hparity : ⌊x⌋+1=n := by exact_mod_cast hprev
        exact Int.even_add_one.mp (hparity ▸ hn) (heven (by linarith))
      · have hstep : (⌊x⌋ : ℚ)+2≤n := by
          have hint : ⌊x⌋+1<n := by exact_mod_cast hless
          have htwo : ⌊x⌋+2≤n := by omega
          exact_mod_cast htwo
        linarith
    · intro hlt
      have hcast : (⌊x⌋ : ℚ)<n := by linarith
      exact_mod_cast hcast
  · rw [hround]
    constructor
    · intro hlt
      have htwo : ⌊x⌋+2≤n := by omega
      have hle : (⌊x⌋ : ℚ)+2≤n := by exact_mod_cast htwo
      linarith
    · intro hlt
      have hcast : (⌊x⌋ : ℚ)+1<n := by linarith
      exact_mod_cast hcast

/-- Integers of up to fifty-three bits are doubles. -/
theorem toDouble_intCast {n : ℤ} (h : |n|<2^53) : toDouble (n : ℚ)=some (n : ℚ) := by
  unfold toDouble
  split
  · rename_i hz
    rw [hz]
  · rename_i hz
    have hz : n≠0 := by exact_mod_cast hz
    have hone : (1 : ℚ)≤|(n : ℚ)| := by exact_mod_cast Int.one_le_abs hz
    have hsmall : |(n : ℚ)|<2^53 := by exact_mod_cast h
    have hlog : Int.log 2 |(n : ℚ)|<53 := by
      refine (Int.lt_zpow_iff_log_lt (by norm_num) (by linarith)).mp ?_
      exact_mod_cast hsmall
    obtain ⟨k,hk⟩ : ∃ k : ℕ,max (Int.log 2 |(n : ℚ)|-52) (-1074)= -(k : ℤ) :=
      ⟨(-max (Int.log 2 |(n : ℚ)|-52) (-1074)).toNat,by omega⟩
    have hquot : (n : ℚ)/2^(-(k : ℤ))=((n*2^k : ℤ) : ℚ) := by
      rw [zpow_neg,div_inv_eq_mul,zpow_natCast]
      push_cast
      rfl
    have hround : nearestEven ((n : ℚ)/2^(-(k : ℤ)))*(2 : ℚ)^(-(k : ℤ))=n := by
      rw [hquot,nearestEven_intCast,←hquot]
      exact div_mul_cancel₀ _ (zpow_ne_zero _ two_ne_zero)
    dsimp only
    rw [hk,hround,if_neg]
    rintro (hbig|⟨-,hne⟩)
    · have hpow : (2 : ℚ)^53≤2^1024 := pow_le_pow_right₀ (by norm_num) (by norm_num)
      exact absurd (hbig.trans_lt hsmall) (not_lt.mpr hpow)
    · exact hne rfl

/-- The codes of the digits. -/
theorem toNat_digit {c : Char} (h : c.isDigit=true) : 48≤c.toNat ∧ c.toNat≤57 := by
  simp only [Char.isDigit,Bool.and_eq_true,decide_eq_true_eq,ge_iff_le,
    UInt32.le_iff_toNat_le] at h
  exact h

/-- A digit is no white space. -/
theorem isSpace_digit {c : Char} (h : c.isDigit=true) : isSpace c=false := by
  have hcode := toNat_digit h
  by_contra hs
  simp only [isSpace,Bool.not_eq_false,Bool.or_eq_true,beq_iff_eq] at hs
  rcases hs with ((((rfl|rfl)|rfl)|rfl)|hs)|hs
  · exact absurd h (by decide)
  · exact absurd h (by decide)
  · exact absurd h (by decide)
  · exact absurd h (by decide)
  · omega
  · omega

/-- A digit has no lower case. -/
theorem toLower_digit {c : Char} (h : c.isDigit=true) : c.toLower=c := by
  have hcode := toNat_digit h
  dsimp only [Char.toLower]
  rw [dif_neg]
  rintro ⟨hge,-⟩
  have hupper : 65≤c.toNat := UInt32.le_iff_toNat_le.mp hge
  omega

section

variable {digits : List Char} (hd : ∀ c∈digits,c.isDigit=true)

include hd

/-- A list of digits is taken whole. -/
theorem takeWhile_digits : digits.takeWhile Char.isDigit=digits :=
  List.takeWhile_eq_self_iff.mpr hd

/-- Nothing is left after a list of digits. -/
theorem dropWhile_digits : digits.dropWhile Char.isDigit=[] :=
  List.dropWhile_eq_nil_iff.mpr hd

/-- A list of digits begins neither with white space nor with a sign. -/
theorem splitSign_digits : splitSign (skipSpace digits)=(false,digits) := by
  cases digits with
  | nil => rfl
  | cons c rest =>
    have hc : c.isDigit=true := hd c List.mem_cons_self
    have hskip : skipSpace (c::rest)=c::rest := by
      dsimp only [skipSpace]
      rw [List.dropWhile_cons,isSpace_digit hc]
      rfl
    rw [hskip]
    unfold splitSign
    split
    · rename_i heq
      obtain ⟨rfl,-⟩ := List.cons.inj heq
      exact absurd hc (by decide)
    · rename_i heq
      obtain ⟨rfl,-⟩ := List.cons.inj heq
      exact absurd hc (by decide)
    · rfl

end

/-- The decimal text of an integer reads as that integer. -/
theorem strictStoi_toString {n : ℤ} (hlo : -2^31≤n) (hhi : n<2^31) :
    strictStoi (toString n)=some n := by
  have hdigits : ∀ m,∀ c∈Nat.toDigits 10 m,c.isDigit=true :=
    fun m c hc => Nat.isDigit_of_mem_toDigits (by decide) (by decide) hc
  dsimp only [strictStoi]
  cases n with
  | ofNat m =>
    have htext : (toString (Int.ofNat m)).toList=Nat.toDigits 10 m := Nat.toList_repr
    have hread : stoi (Nat.toDigits 10 m)=some (Int.ofNat m,[]) := by
      dsimp only [stoi]
      rw [splitSign_digits (hdigits m)]
      dsimp only
      rw [takeWhile_digits (hdigits m),dropWhile_digits (hdigits m),if_neg Nat.toDigits_ne_nil,
        Nat.ofDigitChars_ten_toDigits]
      exact if_pos ⟨hlo,hhi⟩
    rw [htext,hread]
  | negSucc m =>
    have htext : (toString (Int.negSucc m)).toList= '-'::Nat.toDigits 10 (m+1) := by
      change ("-"++(m+1).repr).toList=_
      rw [String.toList_append,Nat.toList_repr]
      rfl
    have hread : stoi ('-'::Nat.toDigits 10 (m+1))=some (Int.negSucc m,[]) := by
      dsimp only [stoi]
      rw [show splitSign (skipSpace ('-'::Nat.toDigits 10 (m+1)))=(true,Nat.toDigits 10 (m+1))
        from rfl]
      dsimp only
      rw [takeWhile_digits (hdigits _),dropWhile_digits (hdigits _),if_neg Nat.toDigits_ne_nil,
        Nat.ofDigitChars_ten_toDigits]
      exact if_pos ⟨hlo,hhi⟩
    rw [htext,hread]

/-- A list of digits names no special value. -/
theorem named_digits (negative : Bool) {digits : List Char} (hne : digits≠[])
    (hd : ∀ c∈digits,c.isDigit=true) : named negative digits=none := by
  cases digits with
  | nil => exact absurd rfl hne
  | cons c rest =>
    have hlower : c.toLower=c := toLower_digit (hd c List.mem_cons_self)
    have hstrip : ∀ w word,w.isDigit=false → stripWord (w::word) (c::rest)=none := by
      intro w word hw
      dsimp only [stripWord]
      rw [hlower,if_neg]
      rintro rfl
      rw [hd c List.mem_cons_self] at hw
      cases hw
    dsimp only [named]
    rw [show "infinity".toList= 'i'::"nfinity".toList from rfl,hstrip _ _ rfl,
      show "inf".toList= 'i'::"nf".toList from rfl,
      show "nan".toList= 'n'::"an".toList from rfl]
    dsimp only
    rw [hstrip _ _ rfl,hstrip _ _ rfl]
    rfl

/-- A list of digits is the magnitude it spells. -/
theorem magnitude_digits {digits : List Char} (hne : digits≠[])
    (hd : ∀ c∈digits,c.isDigit=true) :
    magnitude digits=some (((Nat.ofDigitChars 10 digits 0 : ℕ) : ℚ),[]) := by
  have hdecimal : decimal digits=some (((Nat.ofDigitChars 10 digits 0 : ℕ) : ℚ),[]) := by
    simp only [decimal,mantissa,takeWhile_digits hd,dropWhile_digits hd,List.append_nil,
      if_neg hne,Option.map_some,exponent,List.length_nil,Nat.cast_zero,sub_zero,zpow_zero,mul_one]
  dsimp only [magnitude]
  split
  · rename_i c rest
    have hc : c.isDigit=true := hd c (List.mem_cons_of_mem _ List.mem_cons_self)
    rw [if_neg,hdecimal]
    rw [toLower_digit hc]
    rintro rfl
    exact absurd hc (by decide)
  · exact hdecimal

/-- Signs and casts commute. -/
theorem withSign_cast (negative : Bool) (n : ℕ) :
    ((withSign negative (n : ℤ) : ℤ) : ℚ)=withSign negative (n : ℚ) := by
  dsimp only [withSign]
  split
  · push_cast
    rfl
  · push_cast
    rfl

/-- What `stoi` reads to the end is a sign with digits, within thirty-two bits. -/
theorem stoi_eq_some {cs : List Char} {n : ℤ} (h : stoi cs=some (n,[])) :
    ∃ negative digits,splitSign (skipSpace cs)=(negative,digits) ∧ digits≠[] ∧
      (∀ c∈digits,c.isDigit=true) ∧ n=withSign negative (Nat.ofDigitChars 10 digits 0 : ℤ) ∧
      -2^31≤n ∧ n<2^31 := by
  dsimp only [stoi] at h
  split at h
  · cases h
  · rename_i hne
    split at h
    · rename_i hrange
      obtain ⟨rfl,hrest⟩ := Prod.mk.inj (Option.some.inj h)
      have hd := List.dropWhile_eq_nil_iff.mp hrest
      rw [takeWhile_digits hd] at hne hrange ⊢
      exact ⟨_,_,rfl,hne,hd,rfl,hrange⟩
    · cases h

/-- What `strict_stoi` accepts, `strict_stod` reads as the same number. -/
theorem strictStod_of_strictStoi {s : String} {n : ℤ} (h : strictStoi s=some n) :
    strictStod s=some (.finite n) := by
  have hread : stoi s.toList=some (n,[]) := by
    dsimp only [strictStoi] at h
    split at h
    · rename_i m hm
      rw [hm,Option.some.inj h]
    · cases h
  obtain ⟨negative,digits,hsplit,hne,hd,hn,hlo,hhi⟩ := stoi_eq_some hread
  have hdouble : toDouble (withSign negative ((Nat.ofDigitChars 10 digits 0 : ℕ) : ℚ))=
      some (n : ℚ) := by
    rw [←withSign_cast,←hn]
    exact toDouble_intCast (by rw [abs_lt]; omega)
  have hstod : stod s.toList=some (.finite n,[]) := by
    dsimp only [stod]
    rw [hsplit]
    dsimp only
    rw [named_digits _ hne hd,magnitude_digits hne hd]
    dsimp only
    rw [hdouble]
    rfl
  dsimp only [strictStod]
  rw [hstod]

/-- The text of an integer reads as that number with both readers. -/
theorem strictStod_toString {n : ℤ} (hlo : -2^31≤n) (hhi : n<2^31) :
    strictStod (toString n)=some (.finite n) :=
  strictStod_of_strictStoi (strictStoi_toString hlo hhi)

example : strictStoi " -042"=some (-42) := by decide

example : strictStod "Infinity"=some (.infinite false) := by decide

end Dankong.Numerals
