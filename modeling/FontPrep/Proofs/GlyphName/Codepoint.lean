import FontPrep.Proofs.GlyphName.Own
import FontPrep.Proofs.GlyphOrder

/-! Names made from a codepoint. A glyph of whose name nothing can be kept is named after its first
codepoint, and the name is the token that its line in the glyph order has for that codepoint; only
0xFFFF is written in two ways. -/
namespace FontPrep

namespace GlyphName

variable {decompose : String → String} {taken : NameSet} {cp : Nat} {name : String}

/-! ### Spelling -/

theorem length_paddedHex_le_iff : (Text.paddedHex 4 cp).length ≤ 4 ↔ cp < 0x10000 := by
  have digits : (Text.hexDigits cp).length ≤ 4 ↔ cp < 16 ^ 4 := by
    rw [Text.hexDigits, List.length_map]
    exact Nat.length_toDigits_le_iff (by decide) (by decide)
  rw [Text.paddedHex, List.length_append, List.length_replicate]
  omega

theorem token_eq : token cp =
    if cp < 0x10000 then codepointName "uni" cp else codepointName "u" cp := by
  simp only [token, length_paddedHex_le_iff]

/-- The name and the token change from `uni` to `u` one codepoint apart. -/
theorem fromCodepoint_eq_token_iff : fromCodepoint cp = token cp ↔ cp ≠ 0xFFFF := by
  constructor
  · rintro same rfl
    exact absurd same (by decide)
  · intro differs
    rw [fromCodepoint, token_eq]
    have level : cp < 0xFFFF ↔ cp < 0x10000 := by omega
    simp only [level]

theorem isNameChar_of_isSome_hexValue? {c : Char} (digit : (Text.hexValue? c).isSome = true) :
    Name.isNameChar c = true := by
  rw [Name.isNameChar_iff]
  unfold Text.hexValue? at digit
  split at digit
  · exact Name.isNameChar_iff.mp (Name.isNameChar_of_isDigit ‹_›)
  · split at digit
    · rename_i lower
      exact .inr (.inl ⟨lower.1, Char.le_trans lower.2 (by decide)⟩)
    · split at digit
      · rename_i upper
        exact .inl ⟨upper.1, Char.le_trans upper.2 (by decide)⟩
      · cases digit

theorem length_paddedHex_le (word : cp < 0x100000000) : (Text.paddedHex 4 cp).length ≤ 8 := by
  have digits : (Text.hexDigits cp).length ≤ 8 := by
    rw [Text.hexDigits, List.length_map]
    exact (Nat.length_toDigits_le_iff (by decide) (by decide)).mpr word
  rw [Text.paddedHex, List.length_append, List.length_replicate]
  omega

theorem isLegal_codepointName {lead : String} (front : List Char)
    (starts : lead.toList = 'u' :: front) (words : front.all Name.isNameChar = true)
    (short : front.length ≤ 2) (word : cp < 0x100000000) :
    isLegal (codepointName lead cp) = true := by
  have spelled : (codepointName lead cp).toList = 'u' :: (front ++ Text.paddedHex 4 cp) := by
    simp [codepointName, starts]
  refine isLegal_iff.mpr ⟨⟨'u', _, spelled, by decide, fun period => absurd period (by decide)⟩,
    ?_, fun c member => Name.isNameChar_iff.mp ?_⟩
  · have digits := length_paddedHex_le word
    rw [← String.length_toList, spelled, List.length_cons, List.length_append, Name.maxLength]
    omega
  · rw [spelled, List.mem_cons, List.mem_append] at member
    rcases member with rfl | front | digit
    · decide
    · exact List.all_eq_true.mp words c front
    · exact isNameChar_of_isSome_hexValue? (Text.isSome_hexValue?_of_mem digit)

theorem isLegal_fromCodepoint (word : cp < 0x100000000) : isLegal (fromCodepoint cp) = true := by
  unfold fromCodepoint
  split
  · exact isLegal_codepointName ['n', 'i'] rfl (by decide) (by decide) word
  · exact isLegal_codepointName [] rfl (by decide) (by decide) word

/-- A name of which nothing can be kept. -/
def Hidden (decompose : String → String) (name : String) : Prop :=
  ∀ c ∈ (decompose name).toList, Name.isNameChar c = false

instance instDecidableHidden (decompose : String → String) (name : String) :
    Decidable (Hidden decompose name) :=
  List.decidableBAll (Name.isNameChar · = false) (decompose name).toList

theorem Hidden.filter_eq_nil (hidden : Hidden decompose name) :
    (decompose name).toList.filter Name.isNameChar = [] :=
  List.filter_eq_nil_iff.mpr fun c member => by simp [hidden c member]

theorem Hidden.illegal (hidden : Hidden decompose name) (keeps : KeepsAscii decompose) :
    isLegal name = false := by
  by_contra legal
  rw [Bool.not_eq_false] at legal
  have empty : spelling decompose none name = "" := by simp [spelling, hidden.filter_eq_nil]
  rw [spelling_of_isLegal keeps legal] at empty
  exact absurd (isEmpty_of_isLegal legal) (by simp [empty])

theorem spelling_of_hidden (hidden : Hidden decompose name) (positive : 0 < cp) :
    spelling decompose (some cp) name = fromCodepoint cp := by
  simp [spelling, hidden.filter_eq_nil, positive]

theorem derive_of_hidden (hidden : Hidden decompose name) (positive : 0 < cp)
    (word : cp < 0x100000000) (free : fromCodepoint cp ∉ taken) :
    derive decompose taken (some cp) name = .ok (.spelled (fromCodepoint cp)) := by
  have legal := isLegal_fromCodepoint word
  have chosen : freeSpelling taken (spelling decompose (some cp) name) =
      .ok (fromCodepoint cp) := by
    rw [spelling_of_hidden hidden positive, freeSpelling, isEmpty_of_isLegal legal,
      Name.unique_of_not_mem free]
    rfl
  simp [derive, chosen, legal, bind, Except.bind, pure, Except.pure]

/-! ### Final names -/

namespace Assignment

variable {codepoint : String → Option Nat} {order designs : List String}
variable {provided : Std.ExtTreeMap String String} {done given next : Assignment}

/-- A name that the last pass comes upon without a final name gets the one derived from it, and all
names that are taken then are final names of other designs. -/
theorem exists_derived (valid : Valid done) (spent : Spent done) (asked : name ∈ designs)
    (new : name ∉ done.finals)
    (run : designs.foldlM (addRenamed decompose codepoint) done = .ok next) :
    ∃ taken derived, derive decompose taken (codepoint name) name = .ok derived ∧
      next.finals[name]? = some derived.name ∧
        ∀ final ∈ taken, ∃ design ≠ name, next.finals[design]? = some final := by
  induction designs generalizing done with
  | nil => cases asked
  | cons design rest ih =>
    obtain ⟨middle, assigned, later⟩ : ∃ middle,
        addRenamed decompose codepoint done design = .ok middle ∧
          rest.foldlM (addRenamed decompose codepoint) middle = .ok next := by
      rw [List.foldlM_cons] at run
      cases assigned : addRenamed decompose codepoint done design with
      | error stuck => simp [assigned, bind, Except.bind] at run
      | ok middle => exact ⟨middle, rfl, by simpa [assigned, bind, Except.bind] using run⟩
    obtain ⟨grown, -⟩ := addRenamed_cases assigned
    by_cases same : design = name
    · subst name
      rw [addRenamed, if_neg new] at assigned
      split at assigned
      · rename_i derived found
        cases assigned
        refine ⟨done.taken, derived, found, getElem?_finals_renamed later ?_, ?_⟩
        · rw [getElem?_finals_add, if_pos rfl]
          rfl
        · intro final member
          obtain ⟨other, given⟩ := (valid.mem_taken_iff spent).mp member
          refine ⟨other, ?_, getElem?_finals_renamed later (grown.getElem?_finals given)⟩
          rintro rfl
          exact new (Rows.mem_of_found given)
      · cases assigned
    · have newToo : name ∉ middle.finals := fun present =>
        (grown.mem_finals_cases present).elim same new
      exact ih (valid.grows grown) (spent.grows grown) ((List.mem_cons.mp asked).resolve_left
        (Ne.symm same)) newToo later

/-- A design name that is not legal and not provided is derived. -/
theorem exists_derived_of_ofOrder (named : ofOrder decompose codepoint order provided = .ok done)
    (asked : name ∈ order) (new : name ∉ provided) (illegal : isLegal name = false) :
    ∃ taken derived, derive decompose taken (codepoint name) name = .ok derived ∧
      done.finals[name]? = some derived.name ∧
        ∀ final ∈ taken, ∃ design ≠ name, done.finals[design]? = some final := by
  obtain ⟨given, began, last⟩ := ofOrder_eq_ok_iff.mp named
  have newToo : name ∉ given.finals := mt (mem_given began).mp new
  obtain ⟨valid, -, -⟩ := addOwn_run (covers_given began).valid not_mem_of_unnamed
  refine exists_derived valid ((spent_provided began).own _) ?_ ?_ last
  · simp [asked, newToo]
  · intro present
    obtain ⟨final, found⟩ := Rows.exists_of_mem present
    rw [getElem?_finals_own, if_neg (by simp [illegal])] at found
    exact newToo (Rows.mem_of_found found)

end Assignment

end GlyphName

/-! ### Glyph orders -/

namespace GlyphOrder.Line

variable {line : Line} {cp : Nat}

/-- Whether the line starts with the token of the first codepoint it has. -/
def StartsWithCode (line : Line) : Prop :=
  ∃ codepoint ∈ line.codepoints.head?,
    (GlyphName.token codepoint ++ " ").toList <+: line.text.toList

theorem final_prefix (line : Line) : (line.final ++ " ").toList <+: line.text.toList := by
  simp only [text, String.toList_append, List.append_assoc]
  exact List.prefix_append_right_inj _ |>.mpr (List.prefix_append _ _)

theorem startsWithCode_iff (final : line.final = GlyphName.fromCodepoint cp)
    (first : line.codepoints.head? = some cp) : line.StartsWithCode ↔ cp ≠ 0xFFFF := by
  have starts := final_prefix line
  constructor
  · rintro ⟨codepoint, member, code⟩ rfl
    obtain rfl := Option.some.inj (first.symm.trans member)
    -- Of two texts that one text starts with, the shorter starts the longer.
    rw [final] at starts
    exact absurd (List.prefix_of_prefix_length_le starts code (by decide)) (by decide)
  · intro differs
    rw [final, GlyphName.fromCodepoint_eq_token_iff.mpr differs] at starts
    exact ⟨cp, first, starts⟩

end GlyphOrder.Line

namespace Font

open GlyphName

variable {font : Font} {decompose : String → String} {order : List String}
variable {provided : Std.ExtTreeMap String String} {done : Assignment} {cp : Nat} {name : String}

/-- Whether nothing is in the way of naming a design after the first codepoint it has: it is asked
for, but not provided, and no other design has that name. -/
structure Unrivalled (font : Font) (order : List String) (provided : Std.ExtTreeMap String String)
    (done : Assignment) (name : String) (cp : Nat) : Prop where
  asked : name ∈ order
  new : name ∉ provided
  coded : (font.lastGlyph? name).bind Glyph.codepoint? = some cp
  sole : ∀ design : String, done.finals[design]? = some (fromCodepoint cp) → design = name

theorem Unrivalled.final (unrivalled : font.Unrivalled order provided done name cp)
    (keeps : KeepsAscii decompose) (named : font.finalNames decompose order provided = .ok done)
    (hidden : Hidden decompose name) (positive : 0 < cp) (word : cp < 0x100000000) :
    done.finals[name]? = some (fromCodepoint cp) := by
  obtain ⟨taken, derived, derives, final, others⟩ := Assignment.exists_derived_of_ofOrder named
    unrivalled.asked unrivalled.new (hidden.illegal keeps)
  have free : fromCodepoint cp ∉ taken := fun member => by
    obtain ⟨design, differs, given⟩ := others _ member
    exact differs (unrivalled.sole design given)
  rw [getElem?_glyphsByName, unrivalled.coded, derive_of_hidden hidden positive word free] at derives
  cases derives
  exact final

end Font

namespace GlyphName

variable {decompose : String → String} {cp : Nat} {name : String}

/-- A name of which nothing can be kept is derived from its codepoint, and what is derived is the
token of that codepoint unless this is 0xFFFF. So it is with the start of the line that the glyph
order has for such a name. -/
theorem derive_eq_token_iff (hidden : Hidden decompose name) (positive : 0 < cp)
    (word : cp < 0x100000000) :
    (∀ taken : NameSet, fromCodepoint cp ∉ taken → ∃ derived,
      derive decompose taken (some cp) name = .ok derived ∧
        (derived.name = token cp ↔ cp ≠ 0xFFFF)) ∧
      (KeepsAscii decompose → ∀ font order provided done,
        Font.finalNames font decompose order provided = .ok done →
          font.Unrivalled order provided done name cp →
            ∀ line ∈ GlyphOrder.lines font done.finals order, line.design = name →
              (line.StartsWithCode ↔ cp ≠ 0xFFFF)) := by
  constructor
  · intro taken free
    exact ⟨_, derive_of_hidden hidden positive word free, fromCodepoint_eq_token_iff⟩
  · intro keeps font order provided done named unrivalled line member own
    rw [GlyphOrder.lines_eq] at member
    obtain ⟨design, -, rfl⟩ := List.mem_map.mp member
    subst own
    obtain ⟨glyph, found, first⟩ := Option.bind_eq_some_iff.mp unrivalled.coded
    refine GlyphOrder.Line.startsWithCode_iff ?_ ?_
    · simp [unrivalled.final keeps named hidden positive word]
    · simpa [found, Glyph.codepoint?] using first

private def punctuated : Font where
  glyphs := [{ name := "?", codepoints := [0xFFFF, 0x3F] }, { name := "u10000" },
    { name := "!", codepoints := [0x10000] }, { name := "¿", codepoints := [0xFFFE] }]

private def inTheWay : NameSet := .ofList ["uni10000", "uFFFF"]

private theorem named_punctuated : ∃ done,
    punctuated.finalNames Unicode.decompose punctuated.glyphNames ∅ = .ok done ∧
      done.toList = [("u10000", "u10000"), ("?", "uFFFF"), ("!", "u10000.1"), ("¿", "uniFFFE")] :=
  exists_of_map_toOption (by decide +kernel)

private theorem unrivalled_punctuated {done : Assignment}
    (named : punctuated.finalNames Unicode.decompose punctuated.glyphNames ∅ = .ok done)
    (names : done.toList =
      [("u10000", "u10000"), ("?", "uFFFF"), ("!", "u10000.1"), ("¿", "uniFFFE")]) :
    punctuated.Unrivalled punctuated.glyphNames ∅ done "¿" 0xFFFE ∧
      punctuated.Unrivalled punctuated.glyphNames ∅ done "?" 0xFFFF := by
  have look {design final : String} (found : done.finals[design]? = some final) :
      (design, final) ∈ done.toList := (Assignment.valid_ofOrder named).1.look.mp found
  constructor
  · refine ⟨by decide, by simp, by decide +kernel, fun design found => ?_⟩
    have name : fromCodepoint 0xFFFE = "uniFFFE" := by decide
    simpa [names, name] using look found
  · refine ⟨by decide, by simp, by decide +kernel, fun design found => ?_⟩
    have name : fromCodepoint 0xFFFF = "uFFFF" := by decide
    simpa [names, name] using look found

/-- Below the codepoint that is written in two ways, at it and above it. -/
theorem derive_eq_token_punctuated :
    (Hidden Unicode.decompose "!" ∧ fromCodepoint 0x10000 ∉ inTheWay ∧
      ∃ derived, derive Unicode.decompose inTheWay (some 0x10000) "!" = .ok derived ∧
        derived.name = token 0x10000) ∧
      ∃ done, punctuated.finalNames Unicode.decompose punctuated.glyphNames ∅ = .ok done ∧
        (Hidden Unicode.decompose "¿" ∧
          punctuated.Unrivalled punctuated.glyphNames ∅ done "¿" 0xFFFE ∧
          ∀ line ∈ GlyphOrder.lines punctuated done.finals punctuated.glyphNames,
            line.design = "¿" → line.StartsWithCode) ∧
        Hidden Unicode.decompose "?" ∧
          punctuated.Unrivalled punctuated.glyphNames ∅ done "?" 0xFFFF ∧
          ∀ line ∈ GlyphOrder.lines punctuated done.finals punctuated.glyphNames,
            line.design = "?" → ¬ line.StartsWithCode := by
  have above : Hidden Unicode.decompose "!" := by decide +kernel
  have below : Hidden Unicode.decompose "¿" := by decide +kernel
  have between : Hidden Unicode.decompose "?" := by decide +kernel
  have keeps : KeepsAscii Unicode.decompose := fun _ => Unicode.decompose_of_ascii
  have free : fromCodepoint 0x10000 ∉ inTheWay := by decide +kernel
  obtain ⟨derived, derives, same⟩ :=
    (derive_eq_token_iff above (by decide) (by decide)).1 _ free
  obtain ⟨done, named, names⟩ := named_punctuated
  obtain ⟨first, second⟩ := unrivalled_punctuated named names
  refine ⟨⟨above, free, derived, derives, same.mpr (by decide)⟩, done, named,
    ⟨below, first, fun line member own => ?_⟩, between, second, fun line member own => ?_⟩
  · exact ((derive_eq_token_iff below (by decide) (by decide)).2 keeps _ _ _ _ named first
      line member own).mpr (by decide)
  · exact mt ((derive_eq_token_iff between (by decide) (by decide)).2 keeps _ _ _ _ named second
      line member own).mp (by decide)

private def single : Font where
  glyphs := [{ name := "!", codepoints := [0xFFFF] }]

/-- One codepoint in two spellings: as the name of the glyph and as the token on its line. -/
theorem derive_ne_token :
    Hidden Unicode.decompose "!" ∧ fromCodepoint 0xFFFF ∉ (∅ : NameSet) ∧
      derive Unicode.decompose ∅ (some 0xFFFF) "!" = .ok (.spelled "uFFFF") ∧
      token 0xFFFF = "uniFFFF" ∧
      (single.finalNames Unicode.decompose single.glyphNames ∅).toOption.map (fun done =>
        GlyphOrder.text single done.finals single.glyphNames) = some "uFFFF ! uniFFFF\n" := by
  decide +kernel

end GlyphName
end FontPrep
