import SplitterLaunch.Text.Numeral

/-! What an operating system says when a call fails. -/

namespace SplitterLaunch

/-- Why a call to the operating system failed. -/
inductive OsFault where
  | system (number : Nat) (description : String)
  /-- A path holds a zero byte. -/
  | zeroInPath
  /-- A text file does not hold text. -/
  | notText
deriving DecidableEq, Repr

namespace OsFault

def message : OsFault → String
  | .system number description =>
    description ++ " (os error " ++ String.ofList (Numeral.decimal number) ++ ")"
  | .zeroInPath => "file name contained an unexpected NUL byte"
  | .notText => "stream did not contain valid UTF-8"

def notFound : OsFault := .system 2 "No such file or directory"

def busy : OsFault := .system 16 "Device or resource busy"

def alreadyExists : OsFault := .system 17 "File exists"

def notDirectory : OsFault := .system 20 "Not a directory"

def isDirectory : OsFault := .system 21 "Is a directory"

def nameTooLong : OsFault := .system 36 "File name too long"

def networkUnreachable : OsFault := .system 101 "Network is unreachable"

end OsFault
end SplitterLaunch
