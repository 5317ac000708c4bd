import LintRun.Registry.Template

/-!
# The stock registry

The registry of a source tree that has no registry file of its own.

Models the file of categories that the program carries with it.
-/

namespace LintRun

/-- Generated code, vendored files and platform headers. -/
def stockBlacklist : List String := [
  "atom/browser/mac/atom_application.h",
  "atom/browser/mac/atom_application_delegate.h",
  "atom/browser/resources/win/resource.h",
  "atom/browser/ui/cocoa/atom_menu_controller.h",
  "atom/browser/ui/cocoa/atom_ns_window.h",
  "atom/browser/ui/cocoa/atom_access_controller.h",
  "atom/browser/ui/cocoa/atom_ns_window_delegate.h",
  "atom/browser/ui/cocoa/atom_preview_item.h",
  "atom/browser/ui/cocoa/atom_touch_bar.h",
  "atom/browser/ui/cocoa/touch_bar_forward_declarations.h",
  "atom/browser/ui/cocoa/NSColor+Hex.h",
  "atom/browser/ui/cocoa/NSString+ANSI.h",
  "atom/common/api/api_messages.h",
  "atom/common/common_message_generator.cc",
  "atom/common/common_message_generator.h",
  "atom/common/node_includes.h",
  "atom/node/osfhandle.cc",
  "brightray/browser/mac/bry_inspectable_web_contents_view.h",
  "brightray/browser/mac/event_dispatching_window.h",
  "brightray/browser/mac/notification_center_delegate.h",
  "brightray/browser/win/notification_presenter_win7.h",
  "brightray/browser/win/win32_desktop_notifications/common.h",
  "brightray/browser/win/win32_desktop_notifications/desktop_notification_controller.cc",
  "brightray/browser/win/win32_desktop_notifications/desktop_notification_controller.h",
  "brightray/browser/win/win32_desktop_notifications/toast.h",
  "brightray/browser/win/win32_notification.h",
  "spec/static/jquery-2.0.3.min.js"]

/-- C++ sources; the tool reports its progress next to its findings. -/
def stockCpp : CategoryEntry where
  key := "c++"
  aliases := ["cc", "cpp", "cxx"]
  description := "C++ style (cpplint)"
  roots := ["atom", "brightray"]
  extensions := ["cc", "h"]
  noise := ["^Done processing ", "^Total errors found: 0$"]
  tool := {
    program := "cpplint.py"
    capturesErrors := true }
  fixer := some {
    program := "python"
    arguments := ["script/run-clang-format.py"]
    directory := some placeholder }

/-- Python sources. -/
def stockPython : CategoryEntry where
  key := "python"
  aliases := ["py"]
  description := "Python style (pylint)"
  roots := ["script"]
  extensions := ["py"]
  tool := {
    program := "pylint.py"
    arguments := ["--rcfile=" ++ placeholder ++ "/../third_party/depot_tools/pylintrc"]
    environment := .ofList [("PYTHONPATH", placeholder ++ "/script")] }

/-- JavaScript sources, packages from elsewhere left out. -/
def stockScript : CategoryEntry where
  key := "javascript"
  aliases := ["js", "es"]
  description := "JavaScript style (eslint)"
  roots := ["lib", "spec", "script", "default_app"]
  ignoreRoots := ["spec/node_modules"]
  extensions := ["js"]
  tool := {
    program := placeholder ++ "/node_modules/.bin/eslint"
    arguments := ["--cache"]
    fixArguments := ["--fix"]
    directory := some placeholder }

/-- Build files, formatted one at a time. -/
def stockBuild : CategoryEntry where
  key := "gn"
  description := "GN build file formatting (gn format)"
  roots := ["."]
  extensions := ["gn", "gni"]
  mode := .perFile
  tool := {
    program := "gn"
    arguments := ["format"]
    checkArguments := ["--dry-run"]
    needsFormatCode := some 2 }

/-- The registry file that stands in for a missing one. -/
def RegistryFile.stock : RegistryFile where
  blacklist := stockBlacklist
  vcs := .standard
  categories := [stockCpp, stockPython, stockScript, stockBuild]

end LintRun
