import DeployTrigger.Kit.Source.Token.Quotation

/-! Numerals of source text, of which only the end matters. -/
namespace DeployTrigger.Kit.Source.Numeral

/-- Reads the exponent, `before` being what follows the numeral if this is none. -/
def exponent (before : Option (List Char)) (signed valued : Bool) :
    List Char → Option (List Char)
  | [] => if valued then some [] else before
  | c :: rest =>
    if c = '+' || c = '-' then
      if valued then some (c :: rest) else if signed then before else exponent before true false rest
    else if c.isDigit then exponent before signed true rest
    else if c = '_' then exponent before signed valued rest
    else if valued then some (c :: rest)
    else before

/-- Reads digits with a point among them or an exponent behind them, from the second digit on. -/
def mantissa (pointed : Bool) : List Char → Option (List Char)
  | [] => if pointed then some [] else none
  | c :: rest =>
    let before := if pointed then some (c :: rest) else none
    if c.isDigit || c = '_' then mantissa pointed rest
    else if c = '.' && !pointed then
      if rest.head?.any fun d => d = '.' || isWordStart d then none else mantissa true rest
    else if c = 'e' || c = 'E' then exponent before false false rest
    else before

def fractional (cs : List Char) : Option (List Char) :=
  match cs with
  | c :: rest => if c.isDigit then mantissa false rest else none
  | [] => none

/-- Reads digits of a base, `some` being whether there were some already. -/
def digits (base : Nat) (found : Bool) : List Char → Option (List Char)
  | [] => if found then some [] else none
  | c :: rest =>
    if c = '_' then
      if !found && base = 10 then none else digits base found rest
    else
      match hexDigit? c with
      | some d =>
        if d < base then digits base true rest
        else if c.isDigit then none
        else if found then some (c :: rest)
        else none
      | none => if found then some (c :: rest) else none

def whole (cs : List Char) : Option (List Char) :=
  match cs with
  | '0' :: 'x' :: rest => digits 16 false rest
  | '0' :: 'o' :: rest => digits 8 false rest
  | '0' :: 'b' :: rest => digits 2 false rest
  | _ => digits 10 false cs

/-- The end of a numeral: its suffix, and no further part of a word. -/
def close (cs : List Char) : Option (List Char) :=
  let rest := Quotation.dropSuffix cs
  if rest.head?.any isWordPart then none else some rest

/-- What follows a numeral. -/
def read (cs : List Char) : Option (List Char) :=
  ((fractional cs).bind close).or ((whole cs).bind close)

end DeployTrigger.Kit.Source.Numeral
