import AccumulatorMachine.Listing.Printout
import AccumulatorMachine.Listing.Symbols
import AccumulatorMachine.Proofs.Lists
import AccumulatorMachine.Proofs.Listing.Rows

/-!
# Colour

Colour is put around parts of a row, the row is measured, filled up and put together
with others, and colour is taken out of the whole. What comes out is the listing that
was made without colour (`Listing.decolour_listings`).

A text *shows* another if taking colour out of it leaves that other one whatever stands
behind it (`Listing.Shows`). Only a text whose colour sequences are all complete does
so; an open one would swallow what follows. So showing passes from the parts of a text
to the whole, and `decolour` is met at its leaves only: a painted text
(`Listing.shows_paint`) and a text without colour (`Listing.shows_self`).
-/

namespace AccumulatorMachine

namespace ListingStyle

/-- The style that is not minimal and has colour. -/
def inColour : ListingStyle :=
  ⟨false, true⟩

/-- The style without its colour. -/
def uncoloured (style : ListingStyle) : ListingStyle :=
  { style with coloured := false }

end ListingStyle

namespace Listing

/-! ## Taking colour out of a text -/

/-- What is left of a text holds no escape character. -/
theorem escape_notMem_decolourFrom (hidden : Bool) (text : List Char) :
    '\x1b' ∉ decolourFrom hidden text := by
  induction text generalizing hidden with
  | nil => exact List.not_mem_nil
  | cons c rest ih =>
    cases hidden with
    | true => exact ih _
    | false =>
      rw [decolourFrom]
      split
      · exact ih true
      · next hc =>
        rw [List.mem_cons, not_or]
        exact ⟨Ne.symm hc, ih false⟩

/-- **What is left of a text holds no escape character.** -/
theorem escape_notMem_decolour (text : String) : '\x1b' ∉ (decolour text).toList := by
  unfold decolour
  rw [String.toList_ofList]
  exact escape_notMem_decolourFrom false text.toList

/-- A text without escape characters is left, whatever is behind it. -/
theorem decolourFrom_append {text : List Char} (h : '\x1b' ∉ text) (rest : List Char) :
    decolourFrom false (text ++ rest) = text ++ decolourFrom false rest := by
  induction text with
  | nil => rfl
  | cons c text ih =>
    rw [List.mem_cons, not_or] at h
    rw [List.cons_append, decolourFrom, if_neg (Ne.symm h.1), ih h.2, List.cons_append]

/-- A sequence is hidden up to its letter m. -/
theorem decolourFrom_hidden {body : List Char} (h : 'm' ∉ body) (rest : List Char) :
    decolourFrom true (body ++ 'm' :: rest) = decolourFrom false rest := by
  induction body with
  | nil => rfl
  | cons c body ih =>
    rw [List.mem_cons, not_or] at h
    rw [List.cons_append, decolourFrom, bne_iff_ne.mpr (Ne.symm h.1), ih h.2]

/-! ## Texts that show others -/

/-- **A text shows another** if that is what is left of it without colour, whatever is
behind it. -/
def Shows (text visible : String) : Prop :=
  ∀ rest, decolourFrom false (text.toList ++ rest)
    = visible.toList ++ decolourFrom false rest

section Shows

variable {text visible other otherVisible : String}

/-- What is left of a text is what it shows. -/
theorem Shows.decolour_eq (h : Shows text visible) : decolour text = visible := by
  have hall := h []
  rw [List.append_nil, decolourFrom, List.append_nil] at hall
  unfold decolour
  rw [hall, String.ofList_toList]

/-- **Two texts together show what each of them shows.** -/
theorem Shows.append (h : Shows text visible) (hother : Shows other otherVisible) :
    Shows (text ++ other) (visible ++ otherVisible) := by
  intro rest
  rw [String.toList_append, String.toList_append, List.append_assoc, h, hother, List.append_assoc]

/-- A text that is chosen shows what is chosen with it. -/
theorem shows_ite {chosen : Prop} [Decidable chosen] (h : chosen → Shows text visible)
    (hother : ¬ chosen → Shows other otherVisible) :
    Shows (if chosen then text else other) (if chosen then visible else otherVisible) := by
  split
  · next hchosen => exact h hchosen
  · next hchosen => exact hother hchosen

/-- A text without escape characters shows itself. -/
theorem shows_self (h : '\x1b' ∉ text.toList) : Shows text text :=
  decolourFrom_append h

/-- **A text without escape characters is all visible.** -/
theorem decolour_of_notMem (h : '\x1b' ∉ text.toList) : decolour text = text :=
  (shows_self h).decolour_eq

/-- A colour sequence shows nothing. -/
theorem shows_sequence {body : String} (h : 'm' ∉ body.toList) :
    Shows ("\x1b[" ++ body ++ "m") "" := by
  intro rest
  have htext : ("\x1b[" ++ body ++ "m").toList ++ rest
      = '\x1b' :: ('[' :: body.toList ++ 'm' :: rest) := by
    rw [String.toList_append, String.toList_append, List.append_assoc, List.append_assoc]
    rfl
  have hbody : 'm' ∉ '[' :: body.toList := by
    rw [List.mem_cons, not_or]
    exact ⟨by decide, h⟩
  rw [htext, decolourFrom, if_pos rfl, decolourFrom_hidden hbody]
  rfl

/-- An effect does not have to be switched on again in a text that switches none
off. -/
theorem restart_of_notMem (start : List Char) {text : List Char} (h : '\x1b' ∉ text) :
    ListingStyle.restart start text = text := by
  fun_induction ListingStyle.restart start text with
  | case1 => rfl
  | case2 rest => exact absurd List.mem_cons_self h
  | case3 c rest _ ih => rw [ih fun hmem => h (List.mem_cons_of_mem c hmem)]

/-- **A painted text shows the text**, in any style. -/
theorem shows_paint (style : ListingStyle) {effect : String} (heffect : 'm' ∉ effect.toList)
    (htext : '\x1b' ∉ text.toList) : Shows (style.paint effect text) text := by
  unfold ListingStyle.paint
  dsimp only
  split
  · rw [restart_of_notMem _ htext, String.ofList_toList]
    have hbody : 'm' ∉ "0".toList := by decide
    have hoff : Shows ListingStyle.allOff "" := shows_sequence hbody
    have hall := ((shows_sequence heffect).append (shows_self htext)).append hoff
    rwa [String.empty_append, String.append_empty] at hall
  · exact shows_self htext

/-- A dim text shows the text. -/
theorem shows_dim (style : ListingStyle) (h : '\x1b' ∉ text.toList) :
    Shows (style.dim text) text :=
  shows_paint style (by decide) h

/-- A bold text shows the text. -/
theorem shows_bold (style : ListingStyle) (h : '\x1b' ∉ text.toList) :
    Shows (style.bold text) text :=
  shows_paint style (by decide) h

/-- **Rows that show others** make a listing that shows the listing of the others. -/
theorem shows_ofRows {rows visibles : List String} (h : List.Forall₂ Shows rows visibles) :
    Shows (ofRows rows) (ofRows visibles) := by
  unfold ofRows
  intro rest
  rw [String.toList_join, String.toList_join]
  induction h with
  | nil => rfl
  | @cons row visible rows visibles hrow _ ih =>
    have hline : Shows (row ++ "\n") (visible ++ "\n") := hrow.append (shows_self (by decide))
    rw [List.map_cons, List.map_cons, List.flatMap_cons, List.flatMap_cons, List.append_assoc,
      hline, ih, List.append_assoc]

/-- A header shows what it does without colour. -/
theorem shows_withHeader (style : ListingStyle) {header : String}
    (hheader : '\x1b' ∉ header.toList) {rows visibles : List String}
    (h : List.Forall₂ Shows rows visibles) :
    List.Forall₂ Shows (style.withHeader header rows)
      (style.uncoloured.withHeader header visibles) := by
  obtain ⟨minimal, coloured⟩ := style
  cases minimal with
  | true => exact h
  | false => exact .cons (shows_bold _ hheader) h

/-- Entries that are made in two ways from the same list are related if they are so at
every place. -/
theorem forall₂_mapIdx {α β γ : Type} {R : β → γ → Prop} {f : Nat → α → β} {g : Nat → α → γ}
    (h : ∀ index a, R (f index a) (g index a)) (l : List α) :
    List.Forall₂ R (l.mapIdx f) (l.mapIdx g) := by
  induction l generalizing f g with
  | nil => exact .nil
  | cons a l ih =>
    rw [List.mapIdx_cons, List.mapIdx_cons]
    exact .cons (h 0 a) (ih fun index => h (index + 1))

end Shows

/-! ## Listings of memory -/

/-- A row without colour holds no escape character. -/
theorem escape_notMem_memoryRow (index : Nat) (word : Word) :
    '\x1b' ∉ (memoryRow .plain index word).toList :=
  (only_memoryRow index word).notMem (by decide)

/-- **The row of a memory word** shows the row without colour. -/
theorem shows_memoryRow (style : ListingStyle) (index : Nat) (word : Word) :
    Shows (memoryRow style index word) (memoryRow .plain index word) := by
  have hgap : Shows "  " "  " := shows_self (by decide)
  have hnumber : ∀ n, Shows (Text.alignRight 3 ' ' (Text.decimal n))
      (Text.alignRight 3 ' ' (Text.decimal n)) :=
    fun n => shows_self (((only_decimal n).alignRight (by decide) 3).notMem (by decide))
  have hbits : Shows (style.dim (Text.binary word)) (Text.binary word) :=
    shows_dim style ((only_binary word).notMem (by decide))
  have hinstruction : Shows word.disassembly word.disassembly :=
    shows_self ((only_disassembly word).notMem (by decide))
  exact ((((((hnumber index).append hgap).append (hnumber word.toNat)).append hgap).append
    hbits).append hgap).append hinstruction

/-- The marks of a word hold no escape character. -/
theorem escape_notMem_marks (address counter : UInt8) (index : Nat) :
    '\x1b' ∉ (marks address counter index).toList := by
  unfold marks
  split <;> split <;> decide

/-- **A row with marks** is filled up by what it shows, so that it shows the row without
colour and the same marks in the same column. -/
theorem shows_markedRow {row visible marks : String} (h : Shows row visible)
    (hvisible : '\x1b' ∉ visible.toList) (hmarks : '\x1b' ∉ marks.toList) :
    Shows (markedRow row marks) (markedRow visible marks) := by
  unfold markedRow
  split
  · exact h
  · rw [h.decolour_eq, decolour_of_notMem hvisible]
    refine (h.append (shows_self ?_)).append (shows_self hmarks)
    rw [String.toList_ofList]
    exact fun hmem => absurd (List.eq_of_mem_replicate hmem) (by decide)

/-- The rows of a machine show the rows without colour. -/
theorem shows_machineRows (style : ListingStyle) (machine : Machine) :
    List.Forall₂ Shows (machineRows style machine) (machineRows .plain machine) :=
  forall₂_mapIdx (fun index word => shows_markedRow (shows_memoryRow style index word)
    (escape_notMem_memoryRow index word) (escape_notMem_marks _ _ index)) _

/-- Minimal or not, a row of memory is the same without colour. -/
theorem memoryRow_uncoloured (style : ListingStyle) :
    memoryRow style.uncoloured = memoryRow .plain :=
  rfl

/-- Minimal or not, the rows of a machine are the same without colour. -/
theorem machineRows_uncoloured (style : ListingStyle) (machine : Machine) :
    machineRows style.uncoloured machine = machineRows .plain machine := by
  unfold machineRows
  rw [memoryRow_uncoloured]

/-- **The listing of a machine without colour** is what the listing shows. -/
theorem decolour_ofMachine (style : ListingStyle) (machine : Machine) :
    decolour (ofMachine style machine) = ofMachine style.uncoloured machine := by
  unfold ofMachine
  rw [machineRows_uncoloured]
  exact (shows_ofRows (shows_withHeader style (by decide)
    (shows_machineRows style machine))).decolour_eq

/-- **The listing of an image without colour** is what the listing shows. -/
theorem decolour_ofImage (style : ListingStyle) (image : List Word) :
    decolour (ofImage style image) = ofImage style.uncoloured image := by
  have hrows : List.Forall₂ Shows (imageRows style image) (imageRows style.uncoloured image) := by
    unfold imageRows
    rw [memoryRow_uncoloured]
    exact forall₂_mapIdx (shows_memoryRow style) image
  exact (shows_ofRows (shows_withHeader style (by decide) hrows)).decolour_eq

/-! ## The printout -/

/-- A byte that is no control character does not stand for the escape character. -/
theorem ofNat_ne_escape {byte : UInt8} (h : ¬ byte < 0x20) : Char.ofNat byte.toNat ≠ '\x1b' :=
  Word.forall_of_values (P := fun byte => ¬ byte < 0x20 → Char.ofNat byte.toNat ≠ '\x1b')
    (by decide +kernel) byte h

/-- A byte as a character shows what it does without colour. -/
theorem shows_characterColumn (style : ListingStyle) (byte : UInt8) :
    Shows (characterColumn style byte) (characterColumn style.uncoloured byte) := by
  unfold characterColumn
  -- the names of control characters and of the space
  iterate 8 refine shows_ite (fun _ => shows_self (by decide)) fun _ => ?_
  refine shows_ite (fun _ => shows_dim style (by decide)) fun hcontrol => ?_
  refine shows_ite (fun _ => ?_) fun _ => shows_dim style (by decide)
  have htext : (Char.ofNat byte.toNat).toString.toList = [Char.ofNat byte.toNat] :=
    String.toList_singleton _
  have hcharacter : Text.Only (· ≠ '\x1b') (Char.ofNat byte.toNat).toString := by
    intro c hc
    rw [htext, List.mem_singleton] at hc
    exact hc ▸ ofNat_ne_escape hcontrol
  exact shows_self ((hcharacter.alignLeft (by decide) 3).notMem (not_not.mpr rfl))

/-- The bits of a byte hold no escape character. -/
theorem escape_notMem_bitColumn (style : ListingStyle) (byte : UInt8) :
    '\x1b' ∉ (bitColumn style byte).toList := by
  unfold bitColumn
  split
  · exact (only_binary byte).notMem (by decide)
  · rw [String.toList_ofList]
    intro hmem
    obtain ⟨bit, -, hbit⟩ := List.mem_map.mp hmem
    cases bit <;> exact absurd hbit (by decide)

/-- A byte in hexadecimal holds no escape character. -/
theorem escape_notMem_hexadecimal (byte : UInt8) :
    '\x1b' ∉ (Text.hexadecimal byte.toNat).toList := by
  unfold Text.hexadecimal
  rw [String.toList_ofList]
  exact Word.forall_of_values (P := fun byte => '\x1b' ∉ Nat.toDigits 16 byte.toNat)
    (by decide +kernel) byte

/-- **The row of a printed byte** shows the row without colour. -/
theorem shows_printoutRow (style : ListingStyle) (index : Nat) (byte : UInt8) :
    Shows (printoutRow style index byte) (printoutRow style.uncoloured index byte) := by
  have hgap : Shows "  " "  " := shows_self (by decide)
  have hnumber : ∀ n, Shows (Text.alignRight 3 ' ' (Text.decimal n))
      (Text.alignRight 3 ' ' (Text.decimal n)) :=
    fun n => shows_self (((only_decimal n).alignRight (by decide) 3).notMem (by decide))
  have hhexadecimal : Shows (Text.alignRight 2 '0' (Text.hexadecimal byte.toNat))
      (Text.alignRight 2 '0' (Text.hexadecimal byte.toNat)) :=
    shows_self (((Text.only_ne_iff.mpr (escape_notMem_hexadecimal byte)).alignRight (by decide)
      2).notMem (not_not.mpr rfl))
  have hbits : Shows (bitColumn style byte) (bitColumn style.uncoloured byte) :=
    shows_self (escape_notMem_bitColumn style byte)
  exact (((((((hnumber index).append hgap).append (hnumber byte.toNat)).append
    (shows_self (by decide))).append hhexadecimal).append hgap).append
    (shows_characterColumn style byte)).append hgap |>.append hbits

/-- **The printout without colour** is what the table shows. -/
theorem decolour_ofPrintout (style : ListingStyle) (paper : List UInt8) :
    decolour (ofPrintout style paper) = ofPrintout style.uncoloured paper :=
  (shows_ofRows (shows_withHeader style (by decide)
    (forall₂_mapIdx (shows_printoutRow style) paper))).decolour_eq

/-! ## Symbols -/

/-- **The row of a label** shows the row without colour, if the label holds no escape
character. -/
theorem shows_symbolRow (style : ListingStyle) (width : Nat) {symbol : String × UInt8}
    (h : '\x1b' ∉ symbol.1.toList) :
    Shows (symbolRow style width symbol) (symbolRow style.uncoloured width symbol) := by
  have hname : '\x1b' ∉ (Text.alignLeft width symbol.1).toList :=
    ((Text.only_ne_iff.mpr h).alignLeft (by decide) width).notMem (not_not.mpr rfl)
  have haddress : '\x1b' ∉ (Text.alignRight 2 ' ' (Text.decimal symbol.2.toNat)).toList :=
    ((only_decimal _).alignRight (by decide) 2).notMem (by decide)
  exact ((shows_bold style hname).append (shows_self (by decide))).append (shows_self haddress)

/-- **The table of labels without colour** is what the table shows, if no label holds an
escape character. -/
theorem decolour_ofSymbols (style : ListingStyle) {symbols : List (String × UInt8)}
    (h : ∀ symbol ∈ symbols, '\x1b' ∉ symbol.1.toList) :
    decolour (ofSymbols style symbols) = ofSymbols style.uncoloured symbols := by
  refine (shows_ofRows ?_).decolour_eq
  rw [List.forall₂_map_left_iff, List.forall₂_map_right_iff, List.forall₂_same]
  exact fun symbol hmem => shows_symbolRow style _ (h symbol hmem)

/-! ## All listings -/

/-- A minimal style writes no colour. -/
theorem paint_minimal (coloured : Bool) (effect text : String) :
    ListingStyle.paint ⟨true, coloured⟩ effect text = text := by
  cases coloured <;> rfl

/-- A minimal row of memory is the row without colour. -/
theorem memoryRow_minimal (coloured : Bool) : memoryRow ⟨true, coloured⟩ = memoryRow .plain := by
  funext index word
  unfold memoryRow ListingStyle.dim
  rw [paint_minimal]
  rfl

/-- **A plain listing** is its header, a line feed, and the minimal listing of its
rows. -/
theorem ofRows_withHeader (header : String) (rows : List String) (coloured : Bool) :
    ofRows (ListingStyle.plain.withHeader header rows)
      = header ++ "\n" ++ ofRows (ListingStyle.withHeader ⟨true, coloured⟩ header rows) := by
  refine String.toList_inj.mp ?_
  show (String.join ((header ++ "\n") :: rows.map (· ++ "\n"))).toList
    = (header ++ "\n" ++ String.join (rows.map (· ++ "\n"))).toList
  rw [String.toList_append, String.toList_join, String.toList_join, List.flatMap_cons]

/-- The minimal listing of a machine is the plain one without its header. -/
theorem ofMachine_plain (machine : Machine) (coloured : Bool) :
    ofMachine .plain machine = memoryHeader ++ "\n" ++ ofMachine ⟨true, coloured⟩ machine := by
  unfold ofMachine machineRows
  rw [memoryRow_minimal, ofRows_withHeader]

/-- The minimal listing of an image is the plain one without its header. -/
theorem ofImage_plain (image : List Word) (coloured : Bool) :
    ofImage .plain image = memoryHeader ++ "\n" ++ ofImage ⟨true, coloured⟩ image := by
  unfold ofImage imageRows
  rw [memoryRow_minimal, ofRows_withHeader]

/-- The minimal table of labels is the plain one. -/
theorem ofSymbols_plain (symbols : List (String × UInt8)) (coloured : Bool) :
    ofSymbols ⟨true, coloured⟩ symbols = ofSymbols .plain symbols := by
  unfold ofSymbols symbolRow ListingStyle.bold
  simp only [paint_minimal]
  rfl

/-- **Colour changes nothing that is seen.** Take colour out of the listing of any
machine or image, of any printout or of symbols whose names hold no escape character,
and what is left is the listing that is made without colour. Minimal listings of memory
are those without their header line, and minimal tables of labels are the same. Taking
colour out of any text leaves no escape character, and doing it twice is doing it
once. -/
theorem decolour_listings :
    (∀ machine,
      decolour (ofMachine .inColour machine) = ofMachine .plain machine ∧
      ∀ coloured, ofMachine .plain machine
        = memoryHeader ++ "\n" ++ ofMachine ⟨true, coloured⟩ machine) ∧
    (∀ image,
      decolour (ofImage .inColour image) = ofImage .plain image ∧
      ∀ coloured, ofImage .plain image
        = memoryHeader ++ "\n" ++ ofImage ⟨true, coloured⟩ image) ∧
    '\n' ∉ memoryHeader.toList ∧
    (∀ paper, decolour (ofPrintout .inColour paper) = ofPrintout .plain paper) ∧
    (∀ symbols, (∀ symbol ∈ symbols, '\x1b' ∉ symbol.1.toList) →
      decolour (ofSymbols .inColour symbols) = ofSymbols .plain symbols ∧
      ∀ coloured, ofSymbols ⟨true, coloured⟩ symbols = ofSymbols .plain symbols) ∧
    ∀ text, '\x1b' ∉ (decolour text).toList ∧ decolour (decolour text) = decolour text :=
  ⟨fun machine => ⟨decolour_ofMachine _ machine, ofMachine_plain machine⟩,
    fun image => ⟨decolour_ofImage _ image, ofImage_plain image⟩, by decide,
    decolour_ofPrintout _,
    fun symbols h => ⟨decolour_ofSymbols _ h, ofSymbols_plain symbols⟩,
    fun text => ⟨escape_notMem_decolour text,
      decolour_of_notMem (escape_notMem_decolour text)⟩⟩

/-- Labels with the letter that ends a colour sequence, with a character of two bytes
and with none at all. -/
theorem decolour_listings_labels :
    let symbols : List (String × UInt8) := [("mm", 3), ("é", 31), ("", 0)]
    (∀ symbol ∈ symbols, '\x1b' ∉ symbol.1.toList) ∧
      ofSymbols .inColour symbols
        = "\x1b[1mmm\x1b[0m   3\n\x1b[1mé \x1b[0m  31\n\x1b[1m  \x1b[0m   0\n" ∧
      decolour (ofSymbols .inColour symbols) = "mm   3\né   31\n     0\n" := by
  intro symbols
  have hnames : ∀ symbol ∈ symbols, '\x1b' ∉ symbol.1.toList := by decide
  obtain ⟨-, -, -, -, hsymbols, -⟩ := decolour_listings
  refine ⟨hnames, by decide +kernel, ?_⟩
  rw [(hsymbols symbols hnames).1]
  decide +kernel

end Listing

end AccumulatorMachine
