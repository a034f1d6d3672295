import MediaTypes.Tables.Basic

/-!
# The standard tables

The tables that are used unless others are given. The same extension may stand under several
types: `png` is `image/png` in the primary table and `image/x-png` in the secondary one.

## Main definitions

- `Tables.standard` — the standard tables
-/

namespace MediaTypes

namespace Tables

/-- The mappings that nothing overrides. -/
def standardPrimary : List Mapping :=
  [⟨"text/html", "html,htm,shtml,shtm"⟩,
   ⟨"text/css", "css"⟩,
   ⟨"text/xml", "xml"⟩,
   ⟨"image/gif", "gif"⟩,
   ⟨"image/jpeg", "jpeg,jpg"⟩,
   ⟨"image/webp", "webp"⟩,
   ⟨"image/png", "png"⟩,
   ⟨"video/mp4", "mp4,m4v"⟩,
   ⟨"audio/x-m4a", "m4a"⟩,
   ⟨"audio/mp3", "mp3"⟩,
   ⟨"video/ogg", "ogv,ogm"⟩,
   ⟨"audio/ogg", "ogg,oga,opus"⟩,
   ⟨"video/webm", "webm"⟩,
   ⟨"audio/webm", "webm"⟩,
   ⟨"audio/wav", "wav"⟩,
   ⟨"application/xhtml+xml", "xhtml,xht,xhtm"⟩,
   ⟨"application/x-chrome-extension", "crx"⟩,
   ⟨"multipart/related", "mhtml,mht"⟩]

/-- The mappings that the platform may override. -/
def standardSecondary : List Mapping :=
  [⟨"application/octet-stream", "exe,com,bin"⟩,
   ⟨"application/gzip", "gz"⟩,
   ⟨"application/pdf", "pdf"⟩,
   ⟨"application/postscript", "ps,eps,ai"⟩,
   ⟨"application/javascript", "js"⟩,
   ⟨"application/font-woff", "woff"⟩,
   ⟨"image/bmp", "bmp"⟩,
   ⟨"image/x-icon", "ico"⟩,
   ⟨"image/vnd.microsoft.icon", "ico"⟩,
   ⟨"image/jpeg", "jfif,pjpeg,pjp"⟩,
   ⟨"image/tiff", "tiff,tif"⟩,
   ⟨"image/x-xbitmap", "xbm"⟩,
   ⟨"image/svg+xml", "svg,svgz"⟩,
   ⟨"image/x-png", "png"⟩,
   ⟨"message/rfc822", "eml"⟩,
   ⟨"text/plain", "txt,text"⟩,
   ⟨"text/html", "ehtml"⟩,
   ⟨"application/rss+xml", "rss"⟩,
   ⟨"application/rdf+xml", "rdf"⟩,
   ⟨"text/xml", "xsl,xbl,xslt"⟩,
   ⟨"application/vnd.mozilla.xul+xml", "xul"⟩,
   ⟨"application/x-shockwave-flash", "swf,swl"⟩,
   ⟨"application/pkcs7-mime", "p7m,p7c,p7z"⟩,
   ⟨"application/pkcs7-signature", "p7s"⟩,
   ⟨"application/x-mpegurl", "m3u8"⟩,
   ⟨"application/epub+zip", "epub"⟩]

/-- The images that stand for `image/*`. -/
def imageTypes : List String :=
  ["image/bmp", "image/cis-cod", "image/gif", "image/ief", "image/jpeg", "image/webp",
   "image/pict", "image/pipeg", "image/png", "image/svg+xml", "image/tiff",
   "image/vnd.microsoft.icon", "image/x-cmu-raster", "image/x-cmx", "image/x-icon",
   "image/x-portable-anymap", "image/x-portable-bitmap", "image/x-portable-graymap",
   "image/x-portable-pixmap", "image/x-rgb", "image/x-xbitmap", "image/x-xpixmap",
   "image/x-xwindowdump"]

def audioTypes : List String :=
  ["audio/aac", "audio/aiff", "audio/amr", "audio/basic", "audio/midi", "audio/mp3", "audio/mp4",
   "audio/mpeg", "audio/mpeg3", "audio/ogg", "audio/vorbis", "audio/wav", "audio/webm",
   "audio/x-m4a", "audio/x-ms-wma", "audio/vnd.rn-realaudio", "audio/vnd.wave"]

def videoTypes : List String :=
  ["video/avi", "video/divx", "video/flc", "video/mp4", "video/mpeg", "video/ogg",
   "video/quicktime", "video/sd-video", "video/webm", "video/x-dv", "video/x-m4v", "video/x-mpeg",
   "video/x-ms-asf", "video/x-ms-wmv"]

/-- The standard tables. A leading type other than `image/`, `audio/` and `video/` has no
members. -/
def standard : Tables where
  primary := standardPrimary
  secondary := standardSecondary
  groups :=
    [⟨some "image/", imageTypes⟩, ⟨some "audio/", audioTypes⟩, ⟨some "video/", videoTypes⟩]
  fallback := ⟨none, []⟩

end Tables

end MediaTypes
