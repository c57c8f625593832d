import DeployTrigger.Kit.Source.Reader

/-! Plain paths in source text, and the attributes that they name. -/
namespace DeployTrigger.Kit.Source.Reader

/-- Words that paths may begin with besides identifiers. -/
def pathWords : List String := ["super", "self", "Self", "crate"]

def seesPathWord (ts : List Token) : Bool := pathWords.any (Sees.word · ts)

/-- Names with colons between them. -/
def plainPath : Reader Unit := do
  let _ ← sign? "::"
  let seesName : Reader Bool := sees fun ts => Sees.identifier ts || seesPathWord ts
  if !(← seesName) then fail ["path"]
  loop do
    if !(← seesName) then fail ["path segment"]
    anyWord
    sign? "::"

/-- Attributes in front of something. -/
def attributes : Reader Unit :=
  loop do
    if ← sees (Sees.sign "#") then
      sign "#"
      group .bracket do
        plainPath
        takeAll
      pure true
    else pure false

end DeployTrigger.Kit.Source.Reader
