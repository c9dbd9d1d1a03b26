import GridPolicy.Pattern.Unicode.DerivedProperty

/-!
# Characters of names

Names are made of letters and numbers of any script. They follow Unicode 17.0,
which has more of both than the version whose properties patterns ask for.
-/
namespace GridPolicy.Pattern.Unicode

/-- The letters that Unicode 17.0 added. -/
def laterLetters : CharSet := .ofText
  "88F C5C CDC A7CE-A7CF A7D2 A7D4 A7F1 10940-10959 10EC5-10EC7 10EFA-10EFB 11B60-11B67
    11DB0-11DDB 16EA0-16EB8 16EBB-16ED3 16FF2-16FF6 187F8-187FF 18D09-18D1E 18D80-18DF2
    1E6C0-1E6DE 1E6E0-1E6F5 1E6FE-1E6FF 2B73A-2B73F 2CEA2-2CEAD 323B0-33479"

/-- The numbers that Unicode 17.0 added. -/
def laterNumbers : CharSet := .ofText "11DE0-11DE9 16FF4-16FF6"

def nameLetters : CharSet := alphabetic.union laterLetters

def nameNumbers : CharSet := number.union laterNumbers

def isLetter (c : Char) : Bool := nameLetters.contains c.toNat

def isAlphanumeric (c : Char) : Bool := isLetter c || nameNumbers.contains c.toNat

end GridPolicy.Pattern.Unicode
