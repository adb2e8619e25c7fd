import Amalgam.Text.Basic

/-! What a user can set, with the values used otherwise. -/
namespace Amalgam

structure MarkerSettings where
  originDefine : Text := "PROTEST_ORIGIN_FILE".toList
  /-- Opens each marker comment. -/
  commentLabel : Text := "PROTEST".toList
  deriving DecidableEq, Repr

structure DocLogSettings where
  tag : Text := "@info".toList
  formatFlag : Text := "format".toList
  separatorTags : List Text := ["@seperator".toList, "@separator".toList]
  lineLength : Nat := 79
  sink : Text := "logger()".toList
  deriving DecidableEq, Repr

structure VisibilitySettings where
  label : Text := "private".toList
  replacement : Text := "public".toList
  deriving DecidableEq, Repr

structure AnnotationSettings where
  wrapper : Text := "PROTEST_HIDE".toList
  attributeName : Text := "clang::annotate".toList
  deriving DecidableEq, Repr

structure Settings where
  markers : MarkerSettings := {}
  docLog : DocLogSettings := {}
  visibility : VisibilitySettings := {}
  annotations : AnnotationSettings := {}
  deriving DecidableEq, Repr

end Amalgam
