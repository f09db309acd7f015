import Dankong.DecimalText

/-!
# Position sentences for the caster

`generate_gga` writes a position as an NMEA sentence: whole degrees, minutes with
eight places, a letter for the hemisphere, and a checksum. Degrees are split off
before the minutes are rounded, so minutes just below sixty are written as sixty.
Doubles are rational numbers here, and printing rounds exactly.
-/

namespace Dankong.Ntrip

open DecimalText Numerals

/-- `lat_deg`, `lon_deg`. -/
def wholeDegrees (x : ℚ) : ℕ := ⌊|x|⌋.toNat

/-- `lat_min`, `lon_min`. -/
def minutes (x : ℚ) : ℚ := (|x|-⌊|x|⌋)*60.0

/-- The number of units in the eighth place that the minutes are rounded to. -/
def minuteUnits (x : ℚ) : ℕ := (nearestEven (minutes x*10^8)).toNat

/-- A coordinate: degrees with the given number of digits, and minutes as `%011.8f`. -/
def coordinate (digits : ℕ) (x : ℚ) : List Char :=
  padded digits (wholeDegrees x)++fixed 11 8 (minuteUnits x)

/-- `snprintf` into a buffer: the text is cut to leave room for the final zero. -/
def snprintf (size : ℕ) (text : List Char) : List Char := text.take (size-1)

/-- The sentence up to the latitude. -/
def ggaHead : List Char := "$GPGGA,000000.00,".toList

/-- The sentence after the hemisphere of the longitude. -/
def ggaTail : List Char := ",1,10,1.0,100.0,M,0.0,M,,".toList

/-- The sentence up to the checksum. -/
def ggaBody (lat lon : ℚ) : List Char :=
  ggaHead++(coordinate 2 lat++ ','::(if 0≤lat then 'N' else 'S'):: ','::
    (coordinate 3 lon++ ','::(if 0≤lon then 'E' else 'W')::ggaTail))

/-- `checksum`: exclusive or of character codes. -/
def checksum (text : List Char) : UInt8 :=
  text.foldl (fun sum c => sum ^^^ UInt8.ofNat c.toNat) 0

/-- `%02X`. -/
def hexByte (b : UInt8) : List Char :=
  ["0123456789ABCDEF".toList.getD (b.toNat/16) '0',"0123456789ABCDEF".toList.getD (b.toNat%16) '0']

/-- `generate_gga`. -/
def generateGga (lat lon : ℚ) : List Char :=
  let buf := snprintf 256 (ggaBody lat lon)
  snprintf 256 (buf++ '*'::hexByte (checksum buf.tail)++['\r','\n'])

/-- The comma-separated field with the given number. -/
def field : ℕ → List Char → List Char
  | 0,text => text.takeWhile (· ≠ ',')
  | n+1,text => field n (text.dropWhile (· ≠ ',')).tail

/-- The characters between the dollar sign and the star. -/
def checkedPart (sentence : List Char) : List Char := sentence.tail.takeWhile (· ≠ '*')

/-- What follows the star. -/
def afterStar (sentence : List Char) : List Char := (sentence.dropWhile (· ≠ '*')).tail

/-- The minutes of a coordinate with the given number of digits for its degrees. -/
def fieldMinutes (digits : ℕ) (text : List Char) : ℚ := fixedValue (text.drop digits)

/-- The coordinate that a field and its hemisphere stand for. -/
def decodeCoordinate (digits : ℕ) (text direction positive : List Char) : ℚ :=
  let size := natValue (text.take digits)+fieldMinutes digits text/60
  if direction=positive then size else -size

/-- A sentence is well formed and stands for a position. -/
structure StandsFor (lat lon : ℚ) (sentence : List Char) : Prop where
  /-- The minutes of the latitude are below 60. -/
  latMinutes : fieldMinutes 2 (field 2 sentence)<60
  /-- The minutes of the longitude are below 60. -/
  lonMinutes : fieldMinutes 3 (field 4 sentence)<60
  /-- The latitude is right up to half a unit in the last place of its minutes. -/
  lat : |decodeCoordinate 2 (field 2 sentence) (field 3 sentence) ['N']-lat|≤1/2/10^8/60
  /-- So is the longitude. -/
  lon : |decodeCoordinate 3 (field 4 sentence) (field 5 sentence) ['E']-lon|≤1/2/10^8/60
  /-- The checksum is that of the characters between the dollar sign and the star. -/
  checksum : sentence.head?=some '$' ∧
    afterStar sentence=hexByte (checksum (checkedPart sentence))++['\r','\n']

/-- The first field ends at the first comma. -/
theorem field_zero {text : List Char} (h : ','∉text) (rest : List Char) :
    field 0 (text++ ','::rest)=text := by
  have hall : ∀ c∈text,decide (c≠ ',')=true := by
    intro c hc
    rw [decide_eq_true_eq]
    rintro rfl
    exact h hc
  rw [field,List.takeWhile_append_of_pos hall,List.takeWhile_cons_of_neg (by decide),
    List.append_nil]

/-- The other fields follow it. -/
theorem field_succ {text : List Char} (h : ','∉text) (rest : List Char) (n : ℕ) :
    field (n+1) (text++ ','::rest)=field n rest := by
  have hall : ∀ c∈text,decide (c≠ ',')=true := by
    intro c hc
    rw [decide_eq_true_eq]
    rintro rfl
    exact h hc
  rw [field,List.dropWhile_append_of_pos hall,List.dropWhile_cons_of_neg (by decide),
    List.tail_cons]

section

variable (x : ℚ)

/-- Minutes are less than sixty before they are rounded. -/
theorem minutes_mem : 0≤ minutes x ∧ minutes x<60 := by
  have hsixty : (60.0 : ℚ)=60 := by norm_num
  have hfloor := Int.floor_le |x|
  have hnext := Int.lt_floor_add_one |x|
  rw [minutes,hsixty]
  constructor <;> linarith

/-- The units are the minutes, rounded. -/
theorem cast_minuteUnits : (minuteUnits x : ℤ)=nearestEven (minutes x*10^8) := by
  have hnonneg : 0≤nearestEven (minutes x*10^8) := by
    have hfloor : 0≤⌊minutes x*10^8⌋ :=
      Int.floor_nonneg.mpr (mul_nonneg (minutes_mem x).1 (by norm_num))
    rcases nearestEven_cases (minutes x*10^8) with ⟨hround,_⟩|⟨hround,_⟩
    · rw [hround]
      exact hfloor
    · rw [hround]
      omega
  exact Int.toNat_of_nonneg hnonneg

/-- Rounding the minutes costs at most half a unit. -/
theorem abs_minuteUnits_sub_le : |(minuteUnits x : ℚ)/10^8-minutes x|≤1/2/10^8 := by
  have hcast : (minuteUnits x : ℚ)=(nearestEven (minutes x*10^8) : ℚ) := by
    exact_mod_cast cast_minuteUnits x
  have hclose := abs_nearestEven_sub_le (minutes x*10^8)
  rw [←hcast] at hclose
  have hscale : (minuteUnits x : ℚ)/10^8-minutes x=((minuteUnits x : ℚ)-minutes x*10^8)/10^8 := by
    field_simp
  rw [hscale,abs_div,abs_of_pos (by norm_num : (0 : ℚ)<10^8)]
  exact div_le_div_of_nonneg_right hclose (by norm_num)

/-- The minutes are written as less than sixty exactly if they are below half a unit
less. -/
theorem minuteUnits_lt_iff : (minuteUnits x : ℚ)/10^8<60 ↔ minutes x<59.999999995 := by
  have hunits : (minuteUnits x : ℚ)/10^8<60 ↔ nearestEven (minutes x*10^8)<60*10^8 := by
    rw [←cast_minuteUnits,div_lt_iff₀ (by norm_num)]
    norm_cast
  rw [hunits,nearestEven_lt_iff (by decide)]
  push_cast
  constructor
  · intro h
    norm_num at h ⊢
    linarith
  · intro h
    norm_num at h ⊢
    linarith

/-- The minutes are written with two digits before the point. -/
theorem minuteUnits_lt : minuteUnits x<10^2*10^8 := by
  have hclose := (abs_le.mp (abs_minuteUnits_sub_le x)).2
  have hsixty := (minutes_mem x).2
  have hbound : (minuteUnits x : ℚ)/10^8<61 := by
    norm_num at hclose ⊢
    linarith
  rw [div_lt_iff₀ (by norm_num)] at hbound
  have hnat : minuteUnits x<61*10^8 := by exact_mod_cast hbound
  omega

/-- A coordinate is made of digits and a point. -/
theorem isDigit_of_mem_coordinate {digits : ℕ} {c : Char} (h : c∈coordinate digits x) :
    c.isDigit=true ∨ c= '.' := by
  rcases List.mem_append.mp h with hdegree|hminute
  · exact Or.inl (isDigit_of_mem_padded hdegree)
  · exact isDigit_of_mem_fixed hminute

/-- It contains neither commas nor stars. -/
theorem notMem_coordinate (digits : ℕ) {c : Char} (hdigit : c.isDigit=false) (hpoint : c≠ '.') :
    c∉coordinate digits x := by
  intro h
  rcases isDigit_of_mem_coordinate x h with hc|hc
  · rw [hdigit] at hc
    cases hc
  · exact hpoint hc

variable {x} {digits : ℕ} (hdigits : 0<digits) (hx : |x|<10^digits)

include hdigits hx

/-- The degrees are written with their number of digits. -/
theorem length_degrees : (padded digits (wholeDegrees x)).length=digits := by
  have hfloor : ⌊|x|⌋<10^digits := by
    rw [Int.floor_lt]
    exact_mod_cast hx
  have hnonneg : 0≤⌊|x|⌋ := Int.floor_nonneg.mpr (abs_nonneg x)
  refine length_padded hdigits ?_
  rw [wholeDegrees,Int.toNat_lt hnonneg]
  exact_mod_cast hfloor

/-- A coordinate is as long as its digits, a point and eight places. -/
theorem length_coordinate : (coordinate digits x).length=digits+11 := by
  rw [coordinate,List.length_append,length_degrees hdigits hx,
    length_fixed (by decide) (by decide) (minuteUnits_lt x)]

/-- The minutes of a coordinate are read back. -/
theorem fieldMinutes_coordinate : fieldMinutes digits (coordinate digits x)=minuteUnits x/10^8 := by
  have hdrop : (coordinate digits x).drop digits=fixed 11 8 (minuteUnits x) :=
    List.drop_left' (length_degrees hdigits hx)
  rw [fieldMinutes,hdrop,fixedValue_fixed 11 (by decide)]

/-- The size of a coordinate is read back up to the rounding of its minutes. -/
theorem abs_size_sub_le :
    |natValue ((coordinate digits x).take digits)+fieldMinutes digits (coordinate digits x)/60-
      abs x| ≤ 1/2/10^8/60 := by
  have htake : (coordinate digits x).take digits=padded digits (wholeDegrees x) :=
    List.take_left' (length_degrees hdigits hx)
  have hnonneg : 0≤⌊|x|⌋ := Int.floor_nonneg.mpr (abs_nonneg x)
  have hwhole : (wholeDegrees x : ℚ)=⌊|x|⌋ := by
    exact_mod_cast congrArg (Int.cast (R := ℚ)) (Int.toNat_of_nonneg hnonneg)
  have hminutes : minutes x=(|x|-⌊|x|⌋)*60 := by
    rw [minutes]
    norm_num
  have hdiff : (⌊|x|⌋ : ℚ)+(minuteUnits x : ℚ)/10^8/60-|x|=
      ((minuteUnits x : ℚ)/10^8-minutes x)/60 := by
    rw [hminutes]
    ring
  rw [htake,natValue_padded,fieldMinutes_coordinate hdigits hx,hwhole,hdiff,abs_div,
    abs_of_pos (by norm_num : (0 : ℚ)<60)]
  exact div_le_div_of_nonneg_right (abs_minuteUnits_sub_le x) (by norm_num)

/-- With its hemisphere a coordinate is read back up to the rounding of its minutes. -/
theorem abs_decodeCoordinate_sub_le {positive negative : Char} (hne : negative≠positive) :
    |decodeCoordinate digits (coordinate digits x) [if 0≤x then positive else negative] [positive]-
      x| ≤ 1/2/10^8/60 := by
  have hsize := abs_size_sub_le hdigits hx
  rw [decodeCoordinate]
  by_cases hsign : 0≤x
  · rw [abs_of_nonneg hsign] at hsize
    rw [if_pos hsign,if_pos rfl]
    exact hsize
  · have hother : [negative]≠[positive] := fun h => hne (List.cons.inj h).1
    rw [abs_of_neg (not_le.mp hsign)] at hsize
    rw [if_neg hsign,if_neg hother,abs_sub_comm]
    rw [sub_neg_eq_add] at hsize ⊢
    rwa [add_comm x]

end

section

variable {lat lon : ℚ} (hlat : |lat|≤90) (hlon : |lon|≤180)

include hlat hlon

/-- The text fits into the buffer. -/
theorem length_ggaBody : (ggaBody lat lon).length=74 := by
  have hlatLength : (coordinate 2 lat).length=2+11 :=
    length_coordinate (by decide) (by norm_num; linarith)
  have hlonLength : (coordinate 3 lon).length=3+11 :=
    length_coordinate (by decide) (by norm_num; linarith)
  have hhead : ggaHead.length=17 := by decide
  have htail : ggaTail.length=25 := by decide
  rw [ggaBody,List.length_append,List.length_append,List.length_cons,List.length_cons,
    List.length_cons,List.length_append,List.length_cons,List.length_cons,hlatLength,hlonLength,
    hhead,htail]

/-- The sentence is not cut. -/
theorem generateGga_eq : generateGga lat lon=
    ggaBody lat lon++ '*'::(hexByte (checksum (ggaBody lat lon).tail)++['\r','\n']) := by
  have hlength := length_ggaBody hlat hlon
  have hbody : snprintf 256 (ggaBody lat lon)=ggaBody lat lon :=
    List.take_of_length_le (by rw [hlength]; decide)
  have hall : (ggaBody lat lon++ '*'::hexByte (checksum (ggaBody lat lon).tail)++
      ['\r','\n']).length≤255 := by
    rw [List.length_append,List.length_append,hlength]
    exact Nat.le_of_ble_eq_true rfl
  rw [generateGga,hbody,snprintf,List.take_of_length_le hall,List.append_assoc]
  rfl

omit hlat hlon in
/-- No star stands before the checksum. -/
theorem star_notMem_ggaBody : '*'∉ggaBody lat lon := by
  have hhead : '*'∉ggaHead := by decide
  have htail : '*'∉ggaTail := by decide
  have hlatStar := notMem_coordinate lat 2 (c := '*') rfl (by decide)
  have hlonStar := notMem_coordinate lon 3 (c := '*') rfl (by decide)
  have hnorth : '*'≠(if 0≤lat then 'N' else 'S') := by split <;> decide
  have heast : '*'≠(if 0≤lon then 'E' else 'W') := by split <;> decide
  simp only [ggaBody,List.mem_append,List.mem_cons,not_or]
  exact ⟨hhead,hlatStar,by decide,hnorth,by decide,hlonStar,by decide,heast,htail⟩

/-- The fields of the sentence. -/
theorem field_generateGga : field 2 (generateGga lat lon)=coordinate 2 lat ∧
    field 3 (generateGga lat lon)=[if 0≤lat then 'N' else 'S'] ∧
    field 4 (generateGga lat lon)=coordinate 3 lon ∧
    field 5 (generateGga lat lon)=[if 0≤lon then 'E' else 'W'] := by
  have hname : ','∉"$GPGGA".toList := by decide
  have htime : ','∉"000000.00".toList := by decide
  have hlatComma := notMem_coordinate lat 2 (c := ',') rfl (by decide)
  have hlonComma := notMem_coordinate lon 3 (c := ',') rfl (by decide)
  have hnorth : ','∉[if 0≤lat then 'N' else 'S'] := by
    rw [List.mem_singleton]
    split <;> decide
  have heast : ','∉[if 0≤lon then 'E' else 'W'] := by
    rw [List.mem_singleton]
    split <;> decide
  obtain ⟨rest,hrest⟩ : ∃ rest,generateGga lat lon="$GPGGA".toList++ ','::("000000.00".toList++ ','::
      (coordinate 2 lat++ ','::([if 0≤lat then 'N' else 'S']++ ','::(coordinate 3 lon++ ','::
        ([if 0≤lon then 'E' else 'W']++ ','::rest))))) := by
    refine ⟨"1,10,1.0,100.0,M,0.0,M,,".toList++ '*'::
      (hexByte (checksum (ggaBody lat lon).tail)++['\r','\n']),?_⟩
    have hhead : ggaHead="$GPGGA".toList++ ','::("000000.00".toList++[',']) := by decide
    have htail : ggaTail= ','::"1,10,1.0,100.0,M,0.0,M,,".toList := by decide
    rw [generateGga_eq hlat hlon,ggaBody,hhead,htail]
    simp only [List.append_assoc,List.cons_append,List.nil_append]
  rw [hrest]
  refine ⟨?_,?_,?_,?_⟩
  · rw [field_succ hname,field_succ htime,field_zero hlatComma]
  · rw [field_succ hname,field_succ htime,field_succ hlatComma,field_zero hnorth]
  · rw [field_succ hname,field_succ htime,field_succ hlatComma,field_succ hnorth,
      field_zero hlonComma]
  · rw [field_succ hname,field_succ htime,field_succ hlatComma,field_succ hnorth,
      field_succ hlonComma,field_zero heast]

/-- The checksum of the sentence is right. -/
theorem checksum_generateGga : (generateGga lat lon).head?=some '$' ∧
    afterStar (generateGga lat lon)=
      hexByte (checksum (checkedPart (generateGga lat lon)))++['\r','\n'] := by
  obtain ⟨rest,hbody⟩ : ∃ rest,ggaBody lat lon= '$'::rest := ⟨_,rfl⟩
  have hstar : '*'∉ggaBody lat lon := star_notMem_ggaBody
  have hall : ∀ c∈ggaBody lat lon,decide (c≠ '*')=true := by
    intro c hc
    rw [decide_eq_true_eq]
    rintro rfl
    exact hstar hc
  have hrest : ∀ c∈rest,decide (c≠ '*')=true := fun c hc =>
    hall c (by rw [hbody]; exact List.mem_cons_of_mem _ hc)
  have hchecked : checkedPart (generateGga lat lon)=(ggaBody lat lon).tail := by
    rw [checkedPart,generateGga_eq hlat hlon,hbody,List.cons_append,List.tail_cons,
      List.takeWhile_append_of_pos hrest,List.takeWhile_cons_of_neg (by decide),List.append_nil,
      List.tail_cons]
  refine ⟨?_,?_⟩
  · rw [generateGga_eq hlat hlon,hbody]
    rfl
  · rw [hchecked,afterStar,generateGga_eq hlat hlon,List.dropWhile_append_of_pos hall,
      List.dropWhile_cons_of_neg (by decide),List.tail_cons]

end

/-- For every position the sentence is well formed and stands for it exactly if the
minutes of both coordinates are at least half a unit of their last place below 60. -/
theorem standsFor_iff (lat lon : ℚ) (hlat : |lat|≤90) (hlon : |lon|≤180) :
    StandsFor lat lon (generateGga lat lon) ↔
      minutes lat<59.999999995 ∧ minutes lon<59.999999995 := by
  obtain ⟨hlatField,hnorth,hlonField,heast⟩ := field_generateGga hlat hlon
  have hlatDigits : |lat|<10^2 := lt_of_le_of_lt hlat (by norm_num)
  have hlonDigits : |lon|<10^3 := lt_of_le_of_lt hlon (by norm_num)
  have hlatMinutes : fieldMinutes 2 (field 2 (generateGga lat lon))=minuteUnits lat/10^8 := by
    rw [hlatField,fieldMinutes_coordinate (by decide) hlatDigits]
  have hlonMinutes : fieldMinutes 3 (field 4 (generateGga lat lon))=minuteUnits lon/10^8 := by
    rw [hlonField,fieldMinutes_coordinate (by decide) hlonDigits]
  rw [←minuteUnits_lt_iff,←minuteUnits_lt_iff,←hlatMinutes,←hlonMinutes]
  constructor
  · intro h
    exact ⟨h.latMinutes,h.lonMinutes⟩
  · rintro ⟨hlatBelow,hlonBelow⟩
    refine ⟨hlatBelow,hlonBelow,?_,?_,checksum_generateGga hlat hlon⟩
    · rw [hlatField,hnorth]
      exact abs_decodeCoordinate_sub_le (by decide) hlatDigits (by decide)
    · rw [hlonField,heast]
      exact abs_decodeCoordinate_sub_le (by decide) hlonDigits (by decide)

/-- A position away from whole degrees. -/
theorem quarterDegree_standsFor : StandsFor 31.25 121.5 (generateGga 31.25 121.5) :=
  (standsFor_iff 31.25 121.5 (by norm_num [abs_of_pos]) (by norm_num [abs_of_pos])).mpr
    ⟨by decide +kernel,by decide +kernel⟩

/-- The double `1-2^-40`, just below one degree north, is written with 60 minutes. -/
theorem belowOneDegree_not_standsFor :
    ¬∀ lat lon : ℚ,|lat|≤90 → |lon|≤180 → StandsFor lat lon (generateGga lat lon) := by
  intro hall
  have hsentence := (hall (1-1/2^40) 121.5 (by norm_num [abs_of_pos])
    (by norm_num [abs_of_pos])).latMinutes
  exact absurd hsentence (by decide +kernel)

end Dankong.Ntrip
