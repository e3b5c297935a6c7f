import Tvd.Model.Sockaddr

/-! The command line of `main.c`. `getopt` belongs to the C library: it stops at the first
operand, and `getopt argv` lists its answers to one call after the other, for the
elements behind the program's name. The value of `opterr`, which only tells `getopt`
whether to print, is left out. -/

namespace Tvd

/-! ### The C library -/

/-- What one call of `getopt` returns, and `optarg` for an option that takes an argument. -/
structure OptAnswer where
  c : UInt8
  optarg : Option CString
  deriving DecidableEq

def optA : UInt8 := 0x61
def optH : UInt8 := 0x68
def questionMark : UInt8 := 0x3f
def dash : UInt8 := 0x2d

/-- The answers for the options in one element of `argv`, by `"a:h"`, and whether the
next element was taken for the last one's argument. -/
def getoptElement (next : Option CString) : (chars : List UInt8) → (0 : UInt8) ∉ chars → List OptAnswer × Bool
  | [], _ => ([], false)
  | c :: chars, hchars =>
    have hrest : (0 : UInt8) ∉ chars := fun h => hchars (List.mem_cons_of_mem c h)
    if c = optA then
      if chars ≠ [] then ([⟨optA, some ⟨chars, hrest⟩⟩], false)
      else match next with
        | none => ([⟨questionMark, none⟩], false)
        | some next => ([⟨optA, some next⟩], true)
    else
      let (answers, taken) := getoptElement next chars hrest
      (⟨if c = optH then optH else questionMark, none⟩ :: answers, taken)

/-- No option starts here: an operand, a lone dash, or the two that end the options. -/
def CString.endsOptions (element : CString) : Bool :=
  element.val.head? ≠ some dash ∨ element.val = [dash] ∨ element.val = [dash, dash]

theorem CString.tail_noNul (element : CString) : (0 : UInt8) ∉ element.val.tail :=
  fun h => element.property (List.mem_of_mem_tail h)

/-- The answers up to the one that is negative. -/
def getopt : List CString → List OptAnswer
  | [] => []
  | element :: argv =>
    if CString.endsOptions element then []
    else match argv with
      | [] => (getoptElement none element.val.tail (CString.tail_noNul element)).1
      | next :: argv =>
        let (answers, taken) := getoptElement (some next) element.val.tail (CString.tail_noNul element)
        answers ++ if taken then getopt argv else getopt (next :: argv)

/-! ### Options -/

structure Options where
  socketName : CString
  deriving DecidableEq

def parseOptQuestionMark : Int32 := -1

/-- An address is to be given, and not an empty one. -/
def parseOptA (arg : Option CString) (opt : Options) : Int32 × Options :=
  match arg with
  | none => (-1, opt)
  | some arg => if arg.strlen = 0 then (-1, opt) else (0, { opt with socketName := arg })

/-- The help was printed. -/
def parseOptH : Int32 := 1

def parseOpt (c : UInt8) (arg : Option CString) (options : Options) : Int32 × Options :=
  if c = questionMark then (parseOptQuestionMark, options)
  else if c = optA then parseOptA arg options
  else if c = optH then (parseOptH, options)
  else (-1, options)

/-- The loop over the answers of `getopt`. -/
def parseAnswers : List OptAnswer → Options → Int32 × Options
  | [], options => (0, options)
  | answer :: answers, options =>
    let (res, options) := parseOpt answer.c answer.optarg options
    if res = 0 then parseAnswers answers options else (res, options)

def parseOpts (argv : List CString) (options : Options) : Int32 × Options := parseAnswers (getopt argv) options

end Tvd
